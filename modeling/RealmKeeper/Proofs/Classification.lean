import RealmKeeper.Report
import Mathlib.Tactic.Common

/-!
# What a report is about

A report is looked through from the outside inwards for a status error.

* `Failure.source?`: the failure right behind another one, and `Failure.sources_eq`: the sources of
  a failure are met one behind the other;
* `Wrapped.Finds`: the walk inwards, which ends at the first status error;
* `classified_by_cause`: a report is classified by its cause alone, however many contexts are around
  it, and no status is found that only an administrative error holds.
-/

namespace RealmKeeper

open Http Client Admin Registration Admission

/-! ### One failure behind another -/

namespace Failure

/-- The failure right behind a failure. A status error in a registration error stands for it, so
that nothing is behind it. -/
def source? : Failure → Option Failure
  | .registration (.invalidEndpoint _ _ cause) => some (.url cause)
  | .registration (.initialAccessToken cause) => some (.admin cause)
  | .registration (.encode _ cause) | .registration (.decode _ cause) => some (.decoding cause)
  | .registration (.transport _ cause) => some (.transport cause)
  | .transport (.request cause) | .transport (.body cause) => some (.network cause)
  | .transport .invalidCredential => some (.other badHeaderValue)
  | .admin (.request _ cause) | .admin (.decode _ cause) => some (.network cause)
  | .admission (.checkFailed _ cause) => some (.admin cause)
  | .network cause => cause.cause?.map .other
  | _ => none

/-- **The sources of a failure** are what is right behind it, what is right behind that, and so
on. -/
theorem sources_eq (f : Failure) :
    f.sources = match f.source? with
      | none => []
      | some g => g :: g.sources := by
  cases f with
  | registration e | transport e | admin e | admission e => cases e <;> rfl
  | network e =>
    show (e.cause?.map Failure.other).toList = _
    rw [source?]
    cases e.cause? <;> rfl
  | _ => rfl

/-- **From the last failure of a chain outwards**: nothing is behind a failure, or the failure right
behind it was met before. -/
theorem source_induction {P : Failure → Prop} (last : ∀ f, f.source? = none → P f)
    (step : ∀ f g, f.source? = some g → P g → P f) (f : Failure) : P f := by
  obtain ⟨chain, hc⟩ : ∃ chain, f.sources = chain := ⟨_, rfl⟩
  -- the sources of a failure end, so that the walk from one to the next ends
  induction chain generalizing f with
  | nil =>
    have next := f.sources_eq
    cases hs : f.source? with
    | none => exact last f hs
    | some g =>
      rw [hs, hc] at next
      cases next
  | cons first rest ih =>
    have next := f.sources_eq
    cases hs : f.source? with
    | none => exact last f hs
    | some g =>
      rw [hs, hc] at next
      obtain ⟨-, rest_eq⟩ := List.cons.inj next
      exact step f g hs (ih g rest_eq.symm)

theorem ownStatusError?_of_source? {f g : Failure} (h : f.source? = some g) :
    g.ownStatusError? = none := by
  cases f with
  | network cause =>
    obtain ⟨text, -, rfl⟩ := Option.map_eq_some_iff.mp h
    rfl
  | registration e | transport e | admin e | admission e =>
    cases e <;> cases h <;> rfl
  | _ => cases h

/-- **Behind a failure there is no status error**, however far one looks. -/
theorem ownStatusError?_of_mem_sources (f : Failure) :
    ∀ g ∈ f.sources, g.ownStatusError? = none := by
  induction f using source_induction with
  | last f hs =>
    have none_left : f.sources = [] := by rw [f.sources_eq, hs]
    rw [none_left]
    exact List.forall_mem_nil _
  | step f inner hs ih =>
    have next : f.sources = inner :: inner.sources := by rw [f.sources_eq, hs]
    intro g hg
    rw [next] at hg
    rcases List.mem_cons.mp hg with rfl | farther
    · exact ownStatusError?_of_source? hs
    · exact ih g farther

end Failure

/-! ### The walk inwards -/

/-- **An error as it is met from the outside**: a context around an error, or a failure. -/
inductive Wrapped where
  | failure (f : Failure)
  | context (text : String) (inner : Wrapped)

namespace Wrapped

/-- What is right behind an error. -/
def source? : Wrapped → Option Wrapped
  | .failure f => f.source?.map .failure
  | .context _ inner => some inner

/-- The status error that an error itself is; a context is none. -/
def ownStatusError? : Wrapped → Option StatusError
  | .failure f => f.ownStatusError?
  | .context _ _ => none

/-- **The walk inwards**: it ends at the first error that is a status error, or with none where
nothing is behind the last one. -/
inductive Finds : Wrapped → Option StatusError → Prop
  | here {e : Wrapped} {s : StatusError} (own : e.ownStatusError? = some s) : Finds e (some s)
  | inwards {e inner : Wrapped} {found : Option StatusError} (own : e.ownStatusError? = none)
      (behind : e.source? = some inner) (rest : Finds inner found) : Finds e found
  | nowhere {e : Wrapped} (own : e.ownStatusError? = none) (behind : e.source? = none) :
      Finds e none

theorem Finds.unique {e : Wrapped} {found found' : Option StatusError} (h : Finds e found)
    (h' : Finds e found') : found = found' := by
  induction h with
  | here own =>
    cases h' with
    | here own' => exact own.symm.trans own'
    | inwards own' | nowhere own' => cases own.symm.trans own'
  | inwards own behind _ ih =>
    cases h' with
    | here own' => cases own.symm.trans own'
    | inwards _ behind' rest' =>
      obtain rfl := Option.some.inj (behind.symm.trans behind')
      exact ih rest'
    | nowhere _ behind' => cases behind.symm.trans behind'
  | nowhere own behind =>
    cases h' with
    | here own' => cases own.symm.trans own'
    | inwards _ behind' => cases behind.symm.trans behind'
    | nowhere => rfl

theorem finds_failure (f : Failure) : Finds (.failure f) f.ownStatusError? := by
  induction f using Failure.source_induction with
  | last f hs =>
    have behind : source? (.failure f) = none := by rw [source?, hs]; rfl
    cases own : f.ownStatusError? with
    | some s => exact .here own
    | none => exact .nowhere own behind
  | step f inner hs ih =>
    have behind : source? (.failure f) = some (.failure inner) := by rw [source?, hs]; rfl
    cases own : f.ownStatusError? with
    | some s => exact .here own
    | none =>
      rw [Failure.ownStatusError?_of_source? hs] at ih
      exact .inwards own behind ih

end Wrapped

namespace Report

/-- The error of a report, its contexts around its cause. -/
def wrapped (r : Report) : Wrapped :=
  r.contexts.foldl (fun inner text => .context text inner) (.failure r.cause)

/-- **Contexts are walked through**, however many there are. -/
theorem finds_wrapped (r : Report) : r.wrapped.Finds r.cause.ownStatusError? := by
  have through : ∀ (contexts : List String) (inner : Wrapped) (found : Option StatusError),
      inner.Finds found →
        (contexts.foldl (fun inner text => .context text inner) inner).Finds found := by
    intro contexts
    induction contexts with
    | nil => exact fun _ _ h => h
    | cons text rest ih =>
      intro inner found h
      exact ih (.context text inner) found (.inwards rfl rfl h)
  exact through r.contexts _ _ (Wrapped.finds_failure r.cause)

/-- **The status error of a report is that of its cause.** -/
theorem statusError?_eq (r : Report) : r.statusError? = r.cause.ownStatusError? := by
  have contexts : (r.contexts.reverse.map Failure.other).findSome? Failure.ownStatusError? =
      none := by
    rw [List.findSome?_eq_none_iff]
    intro f hf
    obtain ⟨text, -, rfl⟩ := List.mem_map.mp hf
    rfl
  have sources : r.cause.sources.findSome? Failure.ownStatusError? = none := by
    rw [List.findSome?_eq_none_iff]
    exact r.cause.ownStatusError?_of_mem_sources
  rw [statusError?, failures, List.findSome?_append, contexts, Option.none_or, List.findSome?_cons,
    sources]
  cases r.cause.ownStatusError? <;> rfl

end Report

/-! ### The law -/

/-- **A failure is about a status error**: it is the error, or stands for it as a registration
error. -/
def Failure.IsAbout (f : Failure) (e : StatusError) : Prop :=
  f = .status e ∨ f = .registration (.http e)

theorem Failure.ownStatusError?_eq_some_iff {f : Failure} {e : StatusError} :
    f.ownStatusError? = some e ↔ f.IsAbout e := by
  unfold IsAbout
  constructor
  · intro h
    unfold ownStatusError? at h
    split at h
    · exact .inl (congrArg Failure.status (Option.some.inj h))
    · exact .inr (congrArg (Failure.registration <| .http ·) (Option.some.inj h))
    · cases h
  · rintro (rfl | rfl) <;> rfl

/-- **An administrative error with a status**: by itself, as the reason why there is no initial
token, or as the reason why the check of a realm failed. -/
inductive Failure.HoldsAdminStatus (status : Nat) : Failure → Prop
  | alone {operation body : String} :
      HoldsAdminStatus status (.admin (.unexpectedStatus operation status body))
  | initialToken {operation body : String} : HoldsAdminStatus status
      (.registration (.initialAccessToken (.unexpectedStatus operation status body)))
  | check {realm operation body : String} : HoldsAdminStatus status
      (.admission (.checkFailed realm (.unexpectedStatus operation status body)))

/-- **A report is classified by its cause.** -/
structure ClassifiedByCause (r : Report) : Prop where
  /-- What is found is found by walking inwards. -/
  walks : ∀ found, r.wrapped.Finds found ↔ r.statusError? = found
  finds_iff : ∀ e, r.statusError? = some e ↔ r.cause.IsAbout e
  /-- Contexts change nothing. -/
  stable : ∀ contexts, (Report.mk contexts r.cause).statusError? = r.statusError?
  isStatusError_iff : r.isStatusError = true ↔ ∃ e, r.cause.IsAbout e
  isUnauthorized_iff : r.isUnauthorized = true ↔ ∃ e, r.cause.IsAbout e ∧ e.status = 401
  isNotFound_iff : r.isNotFound = true ↔ ∃ e, r.cause.IsAbout e ∧ e.status = 404
  exclusive : ¬ (r.isUnauthorized = true ∧ r.isNotFound = true)
  implies : r.isUnauthorized = true ∨ r.isNotFound = true → r.isStatusError = true
  /-- The status of an administrative error is never reported. -/
  administrative : ∀ status, r.cause.HoldsAdminStatus status →
    r.statusError? = none ∧ r.isStatusError = false ∧ r.isUnauthorized = false ∧
      r.isNotFound = false

/-- **Classification looks through wrapping.** However many contexts are around a failure, the
status error that is found is the failure itself or the one that it stands for as a registration
error, and the failure is classified by its status; no other failure is a status error, whatever it
holds. -/
theorem classified_by_cause (r : Report) : ClassifiedByCause r := by
  have found := r.statusError?_eq
  have about : ∀ e, r.statusError? = some e ↔ r.cause.IsAbout e := fun e =>
    found ▸ Failure.ownStatusError?_eq_some_iff
  have any_iff : ∀ status, r.statusError?.any (·.status = status) = true ↔
      ∃ e, r.cause.IsAbout e ∧ e.status = status := by
    intro status
    rw [Option.any_eq_true]
    simp only [about, decide_eq_true_eq]
  have some_iff : r.isStatusError = true ↔ ∃ e, r.cause.IsAbout e := by
    rw [Report.isStatusError, Option.isSome_iff_exists]
    simp only [about]
  refine ⟨fun found' => ?_, about, fun contexts => ?_, some_iff, any_iff 401, any_iff 404,
    ?_, ?_, ?_⟩
  · have walk : r.wrapped.Finds r.statusError? := found ▸ r.finds_wrapped
    exact ⟨fun h => walk.unique h, fun h => h ▸ walk⟩
  · rw [Report.statusError?_eq, found]
  · rintro ⟨unauthorized, missing⟩
    obtain ⟨e, he, is401⟩ := (any_iff 401).mp unauthorized
    obtain ⟨e', he', is404⟩ := (any_iff 404).mp missing
    obtain rfl : e = e' := Option.some.inj (((about e).mpr he).symm.trans ((about e').mpr he'))
    omega
  · rintro (unauthorized | missing)
    · obtain ⟨e, he, -⟩ := (any_iff 401).mp unauthorized
      exact some_iff.mpr ⟨e, he⟩
    · obtain ⟨e, he, -⟩ := (any_iff 404).mp missing
      exact some_iff.mpr ⟨e, he⟩
  · intro status holds
    have none : r.statusError? = none := by
      rw [found]
      generalize r.cause = cause at holds
      cases holds <;> rfl
    simp [Report.isStatusError, Report.isUnauthorized, Report.isNotFound, none]

end RealmKeeper
