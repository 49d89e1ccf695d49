import RealmKeeper.Settings.Basic
import Mathlib.Tactic.Common

/-!
# Blank variables

Which of the variables that need not be set may as well be set to the empty text.

* `OptionalVariable`: the variables with a type of their own that need not be set;
* `Environment.blanked`, `Environment.without`: an environment in which some of them are empty, and
  one in which they are not set;
* `read_blanked`: a reader that takes the empty text for nothing reads the same in both;
* `Settings.untilExpiration`: the settings but for the lifetime of initial tokens, which is read
  last;
* `Settings.blank_means_default_iff`: when the settings are the same in both, and
  `Settings.blank_expiration_refused`: an environment in which they are not.
-/

namespace RealmKeeper

/-! ### Environments -/

/-- **The variables that need not be set** and that are not taken as they are. -/
inductive OptionalVariable where
  | port
  | timeout
  | expiration
  | certificateBundles
  | denyList
deriving DecidableEq, Repr

/-- The name of a variable. -/
def OptionalVariable.name : OptionalVariable → String
  | .port => "HTTP_PORT"
  | .timeout => "HTTP_CLIENT_TIMEOUT"
  | .expiration => "INITIAL_ACCESS_TOKEN_EXPIRATION"
  | .certificateBundles => "CERTIFICATE_BUNDLES"
  | .denyList => "REALM_DENY_LIST"

theorem OptionalVariable.name_injective {v w : OptionalVariable} (h : v.name = w.name) : v = w := by
  cases v <;> cases w <;> revert h <;> decide

namespace Environment

/-- **The environment with some variables empty.** -/
def blanked (environment : Environment) (chosen : List OptionalVariable) : Environment :=
  fun name => if name ∈ chosen.map OptionalVariable.name then some [] else environment name

/-- **The environment without some variables.** -/
def without (environment : Environment) (chosen : List OptionalVariable) : Environment :=
  fun name => if name ∈ chosen.map OptionalVariable.name then none else environment name

variable {environment : Environment} {chosen : List OptionalVariable} {name : String}
  {v : OptionalVariable}

theorem text?_blanked_of_mem (h : v ∈ chosen) :
    (environment.blanked chosen).text? v.name = some "" := by
  rw [text?, blanked, if_pos (List.mem_map_of_mem h)]
  rfl

theorem text?_without_of_mem (h : v ∈ chosen) :
    (environment.without chosen).text? v.name = none := by
  rw [text?, without, if_pos (List.mem_map_of_mem h)]
  rfl

theorem text?_blanked (h : name ∉ chosen.map OptionalVariable.name) :
    (environment.blanked chosen).text? name = (environment.without chosen).text? name := by
  rw [text?, text?, blanked, without, if_neg h, if_neg h]

theorem text?_blanked_of_not_mem (h : v ∉ chosen) :
    (environment.blanked chosen).text? v.name = (environment.without chosen).text? v.name := by
  refine text?_blanked fun named => h ?_
  obtain ⟨w, mem, same⟩ := List.mem_map.mp named
  exact OptionalVariable.name_injective same ▸ mem

/-- **A reader that takes the empty text for nothing** reads the same whether a variable is empty or
not set. -/
theorem read_blanked {α : Type} (read : Option String → α) (blank : read (some "") = read none)
    (environment : Environment) (chosen : List OptionalVariable) (v : OptionalVariable) :
    read ((environment.blanked chosen).text? v.name) =
      read ((environment.without chosen).text? v.name) := by
  by_cases h : v ∈ chosen
  · rw [text?_blanked_of_mem h, text?_without_of_mem h, blank]
  · rw [text?_blanked_of_not_mem h]

theorem text?_blanked_of_ne (h : ∀ v : OptionalVariable, v.name ≠ name) :
    (environment.blanked chosen).text? name = (environment.without chosen).text? name := by
  refine text?_blanked fun named => ?_
  obtain ⟨v, -, same⟩ := List.mem_map.mp named
  exact h v same

end Environment

namespace Settings

/-! ### Readers of blank text -/

theorem readTimeout_blank : readTimeout "" = readTimeout "10s" := by decide

theorem readPort_blank : readPort "" = readPort "8443" := by decide

theorem readCertificateBundles_blank :
    readCertificateBundles (some "") = readCertificateBundles none := rfl

theorem readDenyList_blank : readDenyList (some "") = readDenyList none := rfl

theorem readExpiration_default : readExpiration "5m" = .ok (.ofSeconds 300) := by decide

/-- **The reader of the lifetime does not take the empty text for nothing.** -/
theorem readExpiration_blank : readExpiration "" = .error (.duration "") := by decide

/-! ### The settings but for the last -/

/-- **The settings but for the lifetime of initial tokens**, for which they wait. -/
def untilExpiration (environment : Environment) : Except SettingsError (Duration → Settings) := do
  let requestTimeout ← readTimeout (valueOr environment "HTTP_CLIENT_TIMEOUT" "10s")
  let port ← readPort (valueOr environment "HTTP_PORT" "8443")
  let baseUrl ← readBaseUrl (← required environment "IDP_BASE_URL")
  let adminClientId ← required environment "IDP_ADMIN_CLIENT_ID"
  let adminClientSecret ← required environment "IDP_ADMIN_CLIENT_SECRET"
  return fun initialExpiration => {
    certificateBundles := readCertificateBundles (environment.text? "CERTIFICATE_BUNDLES")
    requestTimeout
    port
    userAgent := valueOr environment "USER_AGENT" defaultUserAgent
    baseUrl
    realm := valueOr environment "IDP_REALM" "master"
    adminRealm := valueOr environment "IDP_ADMIN_REALM" "master"
    adminClientId
    adminClientSecret
    denyList := readDenyList (environment.text? "REALM_DENY_LIST")
    initialExpiration }

/-- The lifetime is read last. -/
theorem ofEnvironment_eq (environment : Environment) :
    ofEnvironment environment = (untilExpiration environment).bind fun settings =>
      (readExpiration (valueOr environment "INITIAL_ACCESS_TOKEN_EXPIRATION" "5m")).map
        settings := by
  show _ = untilExpiration environment >>= _
  simp only [ofEnvironment, untilExpiration, bind_assoc, pure_bind]
  rcases readExpiration (valueOr environment "INITIAL_ACCESS_TOKEN_EXPIRATION" "5m") with e | d <;>
    rfl

theorem untilExpiration_blanked (environment : Environment) (chosen : List OptionalVariable) :
    untilExpiration (environment.blanked chosen) =
      untilExpiration (environment.without chosen) := by
  have timeout := Environment.read_blanked (fun text => readTimeout (text.getD "10s"))
    readTimeout_blank environment chosen .timeout
  have port := Environment.read_blanked (fun text => readPort (text.getD "8443"))
    readPort_blank environment chosen .port
  have bundles := Environment.read_blanked readCertificateBundles readCertificateBundles_blank
    environment chosen .certificateBundles
  have denied := Environment.read_blanked readDenyList readDenyList_blank environment chosen
    .denyList
  have others : ∀ name, name ∈ ["IDP_BASE_URL", "IDP_ADMIN_CLIENT_ID", "IDP_ADMIN_CLIENT_SECRET",
      "USER_AGENT", "IDP_REALM", "IDP_ADMIN_REALM"] →
      (environment.blanked chosen).text? name = (environment.without chosen).text? name := by
    intro name mem
    refine Environment.text?_blanked_of_ne fun v same => ?_
    rw [← same] at mem
    cases v <;> revert mem <;> decide
  simp only [OptionalVariable.name] at timeout port bundles denied
  simp only [untilExpiration, valueOr, required, timeout, port, bundles, denied,
    others "IDP_BASE_URL" (by decide), others "IDP_ADMIN_CLIENT_ID" (by decide),
    others "IDP_ADMIN_CLIENT_SECRET" (by decide), others "USER_AGENT" (by decide),
    others "IDP_REALM" (by decide), others "IDP_ADMIN_REALM" (by decide)]

/-! ### All settings -/

section all

variable {environment : Environment} {chosen : List OptionalVariable}

theorem ofEnvironment_blanked_of_not_mem (h : .expiration ∉ chosen) :
    ofEnvironment (environment.blanked chosen) = ofEnvironment (environment.without chosen) := by
  have kept : (environment.blanked chosen).text? "INITIAL_ACCESS_TOKEN_EXPIRATION" =
      (environment.without chosen).text? "INITIAL_ACCESS_TOKEN_EXPIRATION" :=
    Environment.text?_blanked_of_not_mem h
  rw [ofEnvironment_eq, ofEnvironment_eq, untilExpiration_blanked, valueOr, valueOr, kept]

/-- **Where the lifetime is empty**, there are no settings, unless something is wrong before it. -/
theorem ofEnvironment_blanked_of_mem (h : .expiration ∈ chosen) :
    ofEnvironment (environment.blanked chosen) =
      (untilExpiration (environment.without chosen)).bind fun _ => .error (.duration "") := by
  have blank : (environment.blanked chosen).text? "INITIAL_ACCESS_TOKEN_EXPIRATION" = some "" :=
    Environment.text?_blanked_of_mem h
  rw [ofEnvironment_eq, untilExpiration_blanked, valueOr, blank, Option.getD_some,
    readExpiration_blank]
  rfl

theorem ofEnvironment_without_of_mem (h : .expiration ∈ chosen) :
    ofEnvironment (environment.without chosen) =
      (untilExpiration (environment.without chosen)).map fun settings =>
        settings (.ofSeconds 300) := by
  have unset : (environment.without chosen).text? "INITIAL_ACCESS_TOKEN_EXPIRATION" = none :=
    Environment.text?_without_of_mem h
  rw [ofEnvironment_eq, valueOr, unset, Option.getD_none, readExpiration_default]
  rfl

end all

/-- **An empty variable means the default**, for every choice of variables that need not be set,
exactly where the lifetime of initial tokens is not among them, or something else is wrong already.
Otherwise there are settings if the variables are not set, and none if they are empty: the lifetime
is refused. -/
theorem blank_means_default_iff (environment : Environment) (chosen : List OptionalVariable) :
    (ofEnvironment (environment.blanked chosen) = ofEnvironment (environment.without chosen) ↔
      .expiration ∉ chosen ∨ ∃ e, ofEnvironment (environment.without chosen) = .error e) ∧
    ((∃ settings, ofEnvironment (environment.without chosen) = .ok settings) →
      .expiration ∈ chosen →
        ofEnvironment (environment.blanked chosen) = .error (.duration "")) := by
  by_cases h : .expiration ∈ chosen
  · have blanked := @ofEnvironment_blanked_of_mem environment chosen h
    have unset := @ofEnvironment_without_of_mem environment chosen h
    cases before : untilExpiration (environment.without chosen) with
    | error e =>
      rw [before] at blanked unset
      refine ⟨iff_of_true (blanked.trans unset.symm) (.inr ⟨e, unset⟩), ?_⟩
      rintro ⟨settings, made⟩
      cases unset.symm.trans made
    | ok settings =>
      rw [before] at blanked unset
      refine ⟨iff_of_false ?_ ?_, fun _ _ => blanked⟩
      · intro same
        cases blanked.symm.trans (same.trans unset)
      · rintro (absent | ⟨e, failed⟩)
        · exact absent h
        · cases unset.symm.trans failed
  · exact ⟨iff_of_true (ofEnvironment_blanked_of_not_mem h) (.inl h), fun _ mem => absurd mem h⟩

/-- An environment in which nothing is set but what has to be. -/
def leastEnvironment : Environment := fun name =>
  if name = "IDP_BASE_URL" then some (Text.Utf8.bytes "http://idp.test")
  else if name = "IDP_ADMIN_CLIENT_ID" then some (Text.Utf8.bytes "adm")
  else if name = "IDP_ADMIN_CLIENT_SECRET" then some (Text.Utf8.bytes "sec")
  else none

/-- The port and the lifetime are empty: the settings would be there without the two. -/
theorem blank_means_default_least :
    (∃ settings, ofEnvironment (leastEnvironment.without [.port, .expiration]) = .ok settings) ∧
      .expiration ∈ [OptionalVariable.port, .expiration] ∧
      ofEnvironment (leastEnvironment.blanked [.port, .expiration]) = .error (.duration "") := by
  have made : ∃ settings,
      ofEnvironment (leastEnvironment.without [.port, .expiration]) = .ok settings := ⟨_, rfl⟩
  have mem : .expiration ∈ [OptionalVariable.port, .expiration] := by decide
  exact ⟨made, mem, (blank_means_default_iff leastEnvironment _).2 made mem⟩

/-- **An empty lifetime is refused**, where it is five minutes if it is not set. -/
theorem blank_expiration_refused :
    ¬ ∀ environment chosen, ofEnvironment (Environment.blanked environment chosen) =
      ofEnvironment (Environment.without environment chosen) := by
  intro same
  have made : ∃ settings, ofEnvironment (leastEnvironment.without [.expiration]) = .ok settings :=
    ⟨_, rfl⟩
  have refused : ofEnvironment (leastEnvironment.blanked [.expiration]) = .error (.duration "") :=
    rfl
  obtain ⟨settings, made⟩ := made
  rw [same, made] at refused
  cases refused

end Settings

end RealmKeeper
