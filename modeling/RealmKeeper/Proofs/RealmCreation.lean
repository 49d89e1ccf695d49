import RealmKeeper.Proofs.AdminRequests
import RealmKeeper.Proofs.Trimming
import RealmKeeper.Provider.Layers

/-!
# The creation of a realm fails closed

Nothing is admitted unless the provider itself says that there is no such realm.

* `Stands`: nothing stands against a name by itself;
* `Judges`: the rules of a validation, with what is said to the provider;
* `creation_fails_closed`: every validation follows the rules, and the ones that admit a realm are
  those in which its lookup is answered with status 404.
-/

namespace RealmKeeper.Provider

open RealmKeeper.Http RealmKeeper.Admin RealmKeeper.Admission

variable {c : AdminClient} {denied : List String} {realm : String} {w v : World}

/-! ### The rules -/

/-- **Nothing stands against a name by itself**: it is not empty, not the one of the root realm and
not on the list of those that are denied. -/
structure Stands (denied : List String) (realm : String) : Prop where
  filled : realm ≠ ""
  free : realm ≠ "master"
  allowed : realm ∉ denied

/-- **The rules of a validation**: what is said to the provider, and the verdict. -/
inductive Judges (c : AdminClient) (denied : List String) (w : World) (realm : String) :
    List Contact → Except AdmissionError (List String) → Prop
  /-- The name is empty. -/
  | empty (nothing : realm = "") : Judges c denied w realm [] (.error .emptyName)
  /-- The name is the one of the root realm. -/
  | reserved (root : realm = "master") : Judges c denied w realm [] (.error (.reserved realm))
  /-- The name is another one that is denied. -/
  | denied (filled : realm ≠ "") (free : realm ≠ "master") (listed : realm ∈ denied) :
      Judges c denied w realm [] (.error (.denied realm))
  /-- The realm is looked up, and is not there. -/
  | absent {here : List Contact} {response : Response} {after : World}
      (stands : Stands denied realm)
      (answered : Answered c "GET" (c.realmEndpoint realm) w here response after)
      (status : response.status = 404) : Judges c denied w realm here (.ok [])
  /-- The realm is looked up, and is there. -/
  | taken {here : List Contact} {response : Response} {after : World}
      (stands : Stands denied realm)
      (answered : Answered c "GET" (c.realmEndpoint realm) w here response after)
      (status : response.status = 200) : Judges c denied w realm here (.error (.taken realm))
  /-- Nobody says whether the realm is there, however far its lookup comes. -/
  | failed {here : List Contact} {cause : AdminError} (stands : Stands denied realm)
      (attempts : Attempts c "GET" (c.realmEndpoint realm) w here)
      (untold : ∀ contacts response after,
        Answered c "GET" (c.realmEndpoint realm) w contacts response after →
          response.status ≠ 200 ∧ response.status ≠ 404) :
      Judges c denied w realm here (.error (.checkFailed realm cause))

/-! ### The lookup -/

theorem existenceOf_eq_true_iff {watch : Watch} {response : Response} :
    AdminClient.existenceOf watch response = .ok true ↔ response.status = 200 := by
  unfold AdminClient.existenceOf
  by_cases h : response.status = 200
  · simp [h]
  · by_cases h' : response.status = 404 <;> simp [h, h']

theorem existenceOf_eq_false_iff {watch : Watch} {response : Response} :
    AdminClient.existenceOf watch response = .ok false ↔ response.status = 404 := by
  unfold AdminClient.existenceOf
  by_cases h : response.status = 200
  · simp [h]
  · by_cases h' : response.status = 404 <;> simp [h, h']

theorem Answered.realmExists_runs {here : List Contact} {response : Response}
    (h : Answered c "GET" (c.realmEndpoint realm) w here response v) :
    w.Runs (c.realmExists .atRequests realm) here
      (AdminClient.existenceOf .atRequests response) v :=
  have admits : w.Admits .atRequests := (nomatch ·)
  h.runs admits AdminClient.lookupOperation _

/-- A lookup that gives an error was not answered with a status that tells. -/
theorem untold_of_runs {here : List Contact} {cause : AdminError}
    (h : w.Runs (c.realmExists .atRequests realm) here (.error cause) v) :
    ∀ contacts response after, Answered c "GET" (c.realmEndpoint realm) w contacts response after →
      response.status ≠ 200 ∧ response.status ≠ 404 := by
  intro contacts response after answered
  have he : AdminClient.existenceOf .atRequests response = .error cause :=
    congrArg Prod.fst (answered.realmExists_runs.performs.symm.trans h.performs)
  constructor
  · intro hs
    rw [existenceOf_eq_true_iff.mpr hs] at he
    cases he
  · intro hs
    rw [existenceOf_eq_false_iff.mpr hs] at he
    cases he

/-! ### Validations -/

theorem checkName_of_stands (h : Stands denied realm) : checkName denied realm = .ok () := by
  obtain ⟨filled, free, allowed⟩ := h
  simp [checkName, reservedRealm, filled, free, allowed]

/-- The validation of a name, once it is trimmed. -/
def validation (c : AdminClient) (denied : List String) (realm : String) :
    Dialog Admin.Answer (Except AdmissionError (List String)) :=
  match checkName denied realm with
  | .error e => .done (.error e)
  | .ok () =>
    (c.realmExists .atRequests realm).bind fun existence => .done (judgeExistence realm existence)

theorem admitting_validateCreate (c : AdminClient) (denied : List String) (config : RealmConfig) :
    admitting c (validateCreate denied config) =
      validation c denied (trimmed config.spec.realmName) := by
  unfold validation validateCreate
  dsimp only
  cases checkName denied (trimmed config.spec.realmName) <;> rfl

theorem validation_runs_of_error {e : AdmissionError} (h : checkName denied realm = .error e) :
    w.Runs (validation c denied realm) [] (.error e) w := by
  rw [validation, h]
  exact World.runs_done _ _

theorem validation_runs_of_stands {here : List Contact} {existence : Except AdminError Bool}
    (h : Stands denied realm) (hr : w.Runs (c.realmExists .atRequests realm) here existence v) :
    w.Runs (validation c denied realm) here (judgeExistence realm existence) v := by
  rw [validation, checkName_of_stands h]
  exact World.Runs.bind_silent hr (World.runs_done _ _)

theorem judges_of_stands (c : AdminClient) (w : World) (h : Stands denied realm) :
    ∃ here verdict v, w.Runs (validation c denied realm) here verdict v ∧
      Judges c denied w realm here verdict := by
  obtain ⟨here, existence, v, runs, attempts, answered⟩ :=
    asking_runs c .atRequests AdminClient.lookupOperation "GET" (c.realmEndpoint realm)
      (AdminClient.existenceOf .atRequests) w
  refine ⟨here, _, v, validation_runs_of_stands h runs, ?_⟩
  cases existence with
  | error cause => exact .failed h attempts (untold_of_runs runs)
  | ok found =>
    obtain ⟨response, answer, take⟩ := answered found rfl
    cases found with
    | true => exact .taken h answer (existenceOf_eq_true_iff.mp take)
    | false => exact .absent h answer (existenceOf_eq_false_iff.mp take)

/-- **Every validation follows the rules.** -/
theorem exists_judges (c : AdminClient) (denied : List String) (realm : String) (w : World) :
    ∃ here verdict v, w.Runs (validation c denied realm) here verdict v ∧
      Judges c denied w realm here verdict := by
  by_cases filled : realm = ""
  · exact ⟨_, _, _, validation_runs_of_error (by simp [checkName, filled]), .empty filled⟩
  by_cases free : realm = "master"
  · refine ⟨_, _, _, validation_runs_of_error ?_, .reserved free⟩
    simp [checkName, reservedRealm, free]
  by_cases allowed : realm ∈ denied
  · refine ⟨_, _, _, validation_runs_of_error ?_, .denied filled free allowed⟩
    simp [checkName, reservedRealm, filled, free, allowed]
  · exact judges_of_stands c w ⟨filled, free, allowed⟩

theorem Judges.answered {here : List Contact} {warnings : List String}
    (h : Judges c denied w realm here (.ok warnings)) :
    Stands denied realm ∧ ∃ contacts response after,
      Answered c "GET" (c.realmEndpoint realm) w contacts response after ∧
        response.status = 404 := by
  cases h with
  | absent stands answered status => exact ⟨stands, _, _, _, answered, status⟩

/-- **The creation of a realm fails closed.** The name is looked at without its blank ends, each
validation follows the rules, and the realm is admitted exactly when nothing stands against its name
and its lookup, with an admin token that is kept or issued, is answered with status 404. -/
theorem creation_fails_closed (c : AdminClient) (denied : List String) (config : RealmConfig)
    (w : World) :
    let realm := trimmed config.spec.realmName
    let creation := admitting c (validateCreate denied config)
    Text.TrimsTo config.spec.realmName.toList realm.toList ∧
      Judges c denied w realm (w.contacts creation) (w.perform creation).1 ∧
      ((∃ warnings, (w.perform creation).1 = .ok warnings) ↔
        Stands denied realm ∧ ∃ contacts response after,
          Answered c "GET" (c.realmEndpoint realm) w contacts response after ∧
            response.status = 404) ∧
      (w.perform creation).2.sent = w.sent ++ (w.contacts creation).filterMap w.arrived := by
  intro realm creation
  have hc : creation = validation c denied realm := admitting_validateCreate c denied config
  obtain ⟨here, verdict, v, runs, judges⟩ := exists_judges c denied realm w
  refine ⟨?_, ?_, ?_, World.sent_perform creation w⟩
  · show Text.TrimsTo _ (String.ofList (Text.trim config.spec.realmName.toList)).toList
    rw [String.toList_ofList]
    exact Text.trimsTo_trim _
  · rw [hc, runs.contacts_eq, runs.performs]
    exact judges
  · rw [hc, runs.performs]
    constructor
    · rintro ⟨warnings, rfl⟩
      exact judges.answered
    · rintro ⟨stands, contacts, response, after, answered, status⟩
      have hr := validation_runs_of_stands stands answered.realmExists_runs
      rw [existenceOf_eq_false_iff.mpr status] at hr
      exact ⟨[], congrArg Prod.fst (runs.performs.symm.trans hr.performs)⟩

end RealmKeeper.Provider
