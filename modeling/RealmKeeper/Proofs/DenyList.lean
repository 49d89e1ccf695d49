import RealmKeeper.Proofs.History
import RealmKeeper.Proofs.OperationErrors
import RealmKeeper.Proofs.Results
import RealmKeeper.Proofs.SeparatedLists
import RealmKeeper.Server.Startup

/-!
# The realms that are never admitted

The realms whose creation is denied are those between the commas of the text that denies them.

* `Settings.Denies`: the text denies a name, and `mem_readDenyList_iff`: so does what is read of it;
* `denied_iff_mem`: a name is denied where it is listed, and looked up where it is not;
* `always_denied_mem`: nothing is denied that is not listed;
* `Server.always_denyList`: every server has the list of its environment;
* `configured_denials`: all of this for every text.
-/

namespace RealmKeeper

open Text Admin

/-! ### The names in a text -/

namespace Settings

/-- **The text denies a name**: this stands, apart from blank ends, between two of its commas, or
before the first or behind the last. -/
def Denies (text : Option String) (name : List Char) : Prop :=
  ∃ piece ∈ (text.getD "").toList.splitOn ',', TrimsTo piece name

variable {text other : Option String} {realm : String}

/-- **The names that are read** are those in the text, but for the empty one. -/
theorem mem_readDenyList_iff :
    realm ∈ readDenyList text ↔ realm ≠ "" ∧ Denies text realm.toList :=
  mem_entryStrings_iff

example : readDenyList (some " admin, ,internal ,,") = ["admin", "internal"] := by decide

theorem readDenyList_of_blank
    (blank : ∀ ch ∈ (text.getD "").toList, ch = ',' ∨ isBlank ch = true) :
    readDenyList text = [] := by
  refine List.eq_nil_iff_forall_not_mem.mpr fun realm mem => ?_
  obtain ⟨filled, piece, within, whole⟩ := mem_readDenyList_iff.mp mem
  rw [List.splitOn_eq_splitOnP] at within
  have nothing : trim piece = [] := by
    refine (isAllBlank_iff_trim_eq_nil piece).mp (List.all_eq_true.mpr fun ch h => ?_)
    obtain ⟨inside, apart⟩ := of_mem_splitOnP within h
    exact (blank ch inside).resolve_left (by simpa using apart)
  rw [trimsTo_iff.mp whole] at nothing
  exact filled (String.toList_eq_nil_iff.mp nothing)

end Settings

/-! ### The names that are denied -/

namespace Admission

variable {denied : List String} {config : RealmConfig} {name : List Char}

/-- **A name that is listed is denied at once**, and any other is looked up. -/
theorem validateCreate_of_trimsTo (whole : TrimsTo config.spec.realmName.toList name)
    (filled : name ≠ []) (free : name ≠ "master".toList) :
    validateCreate denied config =
      if String.ofList name ∈ denied then .done (.error (.denied (String.ofList name)))
      else .ask (.realmExists (String.ofList name)) fun existence =>
        .done (judgeExistence (String.ofList name) existence) := by
  have looked : trimmed config.spec.realmName = String.ofList name :=
    congrArg String.ofList (trimsTo_iff.mp whole)
  have other : String.ofList name ≠ "master" := fun h => free (by rw [← h, String.toList_ofList])
  unfold validateCreate
  rw [looked]
  by_cases listed : String.ofList name ∈ denied
  · simp [checkName, reservedRealm, filled, other, listed]
  · simp [checkName, reservedRealm, filled, other, listed]

theorem judgeExistence_ne_denied (name : String) (existence : Except AdminError Bool)
    (realm : String) : judgeExistence name existence ≠ .error (.denied realm) := by
  rcases existence with cause | found | found <;> nofun

/-- **A name is denied exactly where it is listed**, and exactly then nothing is looked up. -/
theorem denied_iff_mem (whole : TrimsTo config.spec.realmName.toList name) (filled : name ≠ [])
    (free : name ≠ "master".toList) {σ : Type} (answer : (q : Question) → StateM σ (Answer q))
    (s : σ) :
    (∀ realm, ((validateCreate denied config).run answer s).1 = .error (.denied realm) ↔
      realm = String.ofList name ∧ String.ofList name ∈ denied) ∧
    ((validateCreate denied config).history answer s = [] ↔ String.ofList name ∈ denied) := by
  rw [validateCreate_of_trimsTo whole filled free]
  by_cases listed : String.ofList name ∈ denied
  · rw [if_pos listed]
    refine ⟨fun realm => ⟨?_, ?_⟩, iff_of_true rfl listed⟩
    · rintro ⟨⟩
      exact ⟨rfl, listed⟩
    · rintro ⟨rfl, -⟩
      rfl
  · rw [if_neg listed]
    refine ⟨fun realm => iff_of_false ?_ fun h => listed h.2,
      iff_of_false (List.cons_ne_nil _ _) listed⟩
    exact judgeExistence_ne_denied _ _ _

theorem mem_of_checkName {name realm : String}
    (h : checkName denied name = .error (.denied realm)) : realm ∈ denied := by
  unfold checkName at h
  split_ifs at h with empty reserved listed
  · cases h
  · cases h
  · cases h
    exact List.contains_iff_mem.mp listed

/-- **Nothing is denied that is not listed.** -/
theorem always_denied_mem (denied : List String) (config : RealmConfig) :
    (validateCreate denied config).Always fun result =>
      ∀ realm, result = .error (.denied realm) → realm ∈ denied := by
  unfold validateCreate
  dsimp only
  cases checked : checkName denied (trimmed config.spec.realmName) with
  | error e =>
    rintro realm ⟨⟩
    exact mem_of_checkName checked
  | ok looked =>
    intro existence realm h
    exact absurd h (judgeExistence_ne_denied _ _ _)

/-- The order of a list and its repetitions do not matter. -/
theorem validateCreate_congr {other : List String} (same : ∀ realm, realm ∈ denied ↔ realm ∈ other)
    (config : RealmConfig) : validateCreate denied config = validateCreate other config := by
  have checked : checkName denied = checkName other := by
    funext realm
    simp only [checkName, List.contains_iff_mem, same]
  unfold validateCreate
  rw [checked]

end Admission

/-! ### Servers -/

namespace Server

theorem denyList_of_ofEnvironment {environment : Environment} {settings : Settings}
    (h : Settings.ofEnvironment environment = .ok settings) :
    settings.denyList = Settings.readDenyList (environment.text? "REALM_DENY_LIST") := by
  unfold Settings.ofEnvironment at h
  -- one step for each of the values that can be wrong
  iterate 7 obtain ⟨_, -, h⟩ := exists_of_bind_eq_ok h
  rw [← Except.ok.inj h]

theorem settings_of_serviceOf {settings : Settings} {files : List (List UInt8)} {service : Service}
    (h : serviceOf settings files = .ok service) : service.settings = settings := by
  unfold serviceOf at h
  iterate 3 obtain ⟨_, -, h⟩ := exists_of_bind_eq_ok h
  rw [← Except.ok.inj h]

theorem always_settings (settings : Settings) :
    (startWith settings).Always fun ending => ∀ service, ending = .serving service →
      service.settings = settings := by
  refine Dialog.Always.bind (Dialog.Always.of_forall (fun _ => trivial) _) fun files _ => ?_
  cases made : files.bind (serviceOf settings) with
  | error r => rintro service ⟨⟩
  | ok service =>
    obtain ⟨read, -, made⟩ := exists_of_bind_eq_ok made
    rintro (free | free) other ⟨⟩
    exact settings_of_serviceOf made

/-- **Every server has the list of its environment.** -/
theorem always_denyList (environment : Environment) (words : List (List UInt8)) :
    (start environment words).Always fun ending => ∀ service, ending = .serving service →
      service.settings.denyList =
        Settings.readDenyList (environment.text? "REALM_DENY_LIST") := by
  unfold start
  split_ifs
  · rintro service ⟨⟩
  cases read : Settings.ofEnvironment environment with
  | error e => rintro service ⟨⟩
  | ok settings =>
    exact (always_settings settings).imp fun ending h service hs =>
      h service hs ▸ denyList_of_ofEnvironment read

end Server

/-! ### Whatever is configured -/

namespace Admission

/-- **The denials are those configured.** For every text that denies realms: a name that is neither
empty nor the one of the root realm is denied exactly where it is in the text, with blank ends left
out of both, and exactly then nothing is looked up. A text of commas and blank characters denies
nothing, texts with the same parts between their commas decide alike, and every server has the list
of its environment. -/
theorem configured_denials (text : Option String) :
    let denied := Settings.readDenyList text
    (∀ config name, TrimsTo config.spec.realmName.toList name → name ≠ [] →
      name ≠ "master".toList →
        ∀ (σ : Type) (answer : (q : Question) → StateM σ (Answer q)) (s : σ),
          (∀ realm, ((validateCreate denied config).run answer s).1 = .error (.denied realm) ↔
            realm = String.ofList name ∧ Settings.Denies text name) ∧
          ((validateCreate denied config).history answer s = [] ↔ Settings.Denies text name)) ∧
    ((∀ ch ∈ (text.getD "").toList, ch = ',' ∨ isBlank ch = true) →
      ∀ config (σ : Type) (answer : (q : Question) → StateM σ (Answer q)) (s : σ) realm,
        ((validateCreate denied config).run answer s).1 ≠ .error (.denied realm)) ∧
    (∀ other : Option String,
      (∀ piece, piece ∈ (text.getD "").toList.splitOn ',' ↔
        piece ∈ (other.getD "").toList.splitOn ',') →
      ∀ config, validateCreate denied config =
        validateCreate (Settings.readDenyList other) config) ∧
    ∀ environment words (σ : Type) (answer : (q : Server.Question) → StateM σ (Server.Answer q))
      (s : σ) service, environment.text? "REALM_DENY_LIST" = text →
        ((Server.start environment words).run answer s).1 = .serving service →
          service.settings.denyList = denied := by
  intro denied
  refine ⟨?_, ?_, ?_, ?_⟩
  · intro config name whole filled free σ answer s
    have listed : String.ofList name ∈ denied ↔ Settings.Denies text name := by
      rw [Settings.mem_readDenyList_iff, String.toList_ofList]
      exact and_iff_right (by simpa using filled)
    rw [← listed]
    exact denied_iff_mem whole filled free answer s
  · intro blank config σ answer s realm failed
    have mem : realm ∈ Settings.readDenyList text :=
      (always_denied_mem denied config).run answer s realm failed
    rw [Settings.readDenyList_of_blank blank] at mem
    cases mem
  · intro other same config
    refine validateCreate_congr (fun realm => ?_) config
    simp only [denied, Settings.mem_readDenyList_iff, Settings.Denies, same]
  · rintro environment words σ answer s service rfl served
    exact (Server.always_denyList environment words).run answer s service served

end Admission

end RealmKeeper
