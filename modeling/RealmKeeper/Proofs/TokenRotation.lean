import RealmKeeper.Proofs.AdminRequests

/-!
# Renewing the registration token of a client

What the administrative client says to the provider when it renews a token: it looks for the client,
and asks for a new token of the one that it finds.

* `Finds`: the client is found, `Rotates`: its token is renewed;
* `AttemptsRotation`: what may have been said when the renewal ends anywhere;
* `refreshToken_runs`: every renewal is such an attempt, and one that gives a token renews it.
-/

namespace RealmKeeper.Provider

open RealmKeeper.Http RealmKeeper.Admin

variable {c : AdminClient} {watch : Watch} {clientId : String} {w v : World}

/-- The first of the entries that is for the client. -/
structure IsFirstFor (clientId : String) (entry : ClientEntry) (entries : List ClientEntry) :
    Prop where
  identified : entry.clientId = clientId
  first : ∃ before after, entries = before ++ entry :: after ∧
    ∀ other ∈ before, other.clientId ≠ clientId

/-- **A client is found**: the clients with its identifier are asked for, and the entry is the first
in the answer that is for the client. -/
inductive Finds (c : AdminClient) (clientId : String) (w : World) :
    List Contact → ClientEntry → World → Prop
  | intro {here : List Contact} {response : Response} {entries : List ClientEntry}
      {entry : ClientEntry} {after : World}
      (answered : Answered c "GET" (c.clientsEndpoint clientId) w here response after)
      (success : response.isSuccess = true) (holds : response.Holds readClients entries)
      (first : IsFirstFor clientId entry entries) : Finds c clientId w here entry after

/-- **The token of a client is renewed**: the client is found, and the provider is asked for a new
token of this one and gives it. -/
inductive Rotates (c : AdminClient) (clientId : String) (w : World) :
    List Contact → String → World → Prop
  | intro {here there : List Contact} {entry : ClientEntry} {response : Response} {fresh : String}
      {middle after : World} (finds : Finds c clientId w here entry middle)
      (answered : Answered c "POST" (c.renewalEndpoint entry.id) middle there response after)
      (success : response.isSuccess = true)
      (holds : response.Holds readRegistrationToken fresh) :
      Rotates c clientId w (here ++ there) fresh after

/-- **A renewal as far as it comes**: the client is looked for, and only where it is found the
provider is asked for a new token of it. -/
inductive AttemptsRotation (c : AdminClient) (clientId : String) (w : World) : List Contact → Prop
  | lookup {here : List Contact} (attempts : Attempts c "GET" (c.clientsEndpoint clientId) w here) :
      AttemptsRotation c clientId w here
  | renewal {here there : List Contact} {entry : ClientEntry} {middle : World}
      (finds : Finds c clientId w here entry middle)
      (attempts : Attempts c "POST" (c.renewalEndpoint entry.id) middle there) :
      AttemptsRotation c clientId w (here ++ there)

theorem isFirstFor_of_selectClient {entry : ClientEntry} {entries : List ClientEntry}
    (h : AdminClient.selectClient clientId entries = .ok entry) :
    IsFirstFor clientId entry entries := by
  unfold AdminClient.selectClient at h
  cases hf : entries.find? fun entry => entry.clientId = clientId with
  | none =>
    rw [hf] at h
    cases h
  | some found =>
    rw [hf] at h
    obtain rfl : found = entry := Except.ok.inj h
    obtain ⟨hid, before, after, he, hb⟩ := List.find?_eq_some_iff_append.mp hf
    refine ⟨of_decide_eq_true hid, before, after, he, fun other ho => ?_⟩
    simpa using hb other ho

theorem findClient_runs (c : AdminClient) (watch : Watch) (clientId : String) (w : World) :
    ∃ here result v, w.Runs (c.findClient watch clientId) here result v ∧
      Attempts c "GET" (c.clientsEndpoint clientId) w here ∧
      ∀ entry, result = .ok entry → Finds c clientId w here entry v := by
  obtain ⟨here, result, v, runs, attempts, answered⟩ :=
    asking_runs c watch AdminClient.clientOperation "GET" (c.clientsEndpoint clientId)
      (fun response => (successDocument watch readClients AdminClient.clientOperation response).bind
        (AdminClient.selectClient clientId)) w
  refine ⟨here, result, v, runs, attempts, fun entry he => ?_⟩
  obtain ⟨response, answer, take⟩ := answered entry he
  cases hd : successDocument watch readClients AdminClient.clientOperation response with
  | error e =>
    rw [hd] at take
    cases take
  | ok entries =>
    rw [hd] at take
    obtain ⟨success, holds⟩ := (successDocument_eq_ok_iff watch _).mp hd
    exact .intro answer success holds (isFirstFor_of_selectClient take)

/-- **A renewal** attempts what it may, and a token that it gives is a renewed one. -/
theorem refreshToken_runs (c : AdminClient) (watch : Watch) (clientId : String) (w : World) :
    ∃ here result v, w.Runs (c.refreshToken watch clientId) here result v ∧
      AttemptsRotation c clientId w here ∧
      ∀ fresh, result = .ok fresh → Rotates c clientId w here fresh v := by
  obtain ⟨here, found, v, runs, attempts, finds⟩ := findClient_runs c watch clientId w
  cases found with
  | error e => exact ⟨here, .error e, v, runs.andThen_error, .lookup attempts, nofun⟩
  | ok entry =>
    have finds := finds entry rfl
    obtain ⟨there, result, u, runs', attempts', answered⟩ :=
      asking_runs c watch AdminClient.renewalOperation "POST" (c.renewalEndpoint entry.id)
        (successDocument watch readRegistrationToken AdminClient.renewalOperation) v
    refine ⟨here ++ there, result, u, runs.andThen runs', .renewal finds attempts',
      fun fresh hf => ?_⟩
    obtain ⟨response, answer, take⟩ := answered fresh hf
    obtain ⟨success, holds⟩ := (successDocument_eq_ok_iff watch _).mp take
    exact .intro finds answer success holds

end RealmKeeper.Provider
