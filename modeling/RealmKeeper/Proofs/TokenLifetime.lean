import RealmKeeper.Proofs.RealmLookup
import RealmKeeper.Proofs.AdminRequests

/-!
# The lifetime of initial access tokens

An initial access token is asked for with a number of seconds, and none of them means that the token
does not expire.

* `AsksFor`: a request for a token of so many seconds;
* `Posts`: what is said when such a token is asked for;
* `Duration.cappedSeconds`: the seconds of a length of time, `cappedSeconds_pos_iff` and
  `cappedSeconds_bounds`: when there are any, and how far they are from it;
* `lifetime_posted_pos_iff`: what is asked for in every run, and `posts_endless`: a lifetime for
  which a token is asked for that does not expire.
-/

namespace RealmKeeper

/-! ### Whole seconds -/

namespace Duration

/-- The whole seconds of a length of time, as far as there is a number for them. -/
def cappedSeconds (d : Duration) : Nat :=
  min (d.nanoseconds / 1000000000) 9223372036854775807

theorem cappedSeconds_pos_iff (d : Duration) :
    0 < d.cappedSeconds ↔ 1000000000 ≤ d.nanoseconds := by
  unfold cappedSeconds
  omega

/-- **The seconds are less than one second short**, or the greatest number there is. -/
theorem cappedSeconds_bounds (d : Duration) :
    d.cappedSeconds = 9223372036854775807 ∨
      d.cappedSeconds * 1000000000 ≤ d.nanoseconds ∧
        d.nanoseconds < (d.cappedSeconds + 1) * 1000000000 := by
  unfold cappedSeconds
  omega

end Duration

open RealmKeeper.Http RealmKeeper.Admin RealmKeeper.Json

/-! ### The request -/

namespace Admin

/-- **The request asks for an initial access token** that is good for one registration, for so many
seconds. -/
structure AsksFor (c : AdminClient) (seconds : Int) (request : Request) : Prop where
  method_eq : request.method = "POST"
  url_eq : request.url = c.initialTokenEndpoint.withoutUser
  body_eq : ∃ exact : Exact seconds, request.body = .octets (bytes
    (.object [("count", ofInt 1), ("expiration", .number (.integer seconds exact))]))

/-- **What is asked for** are the seconds of the lifetime. -/
theorem asksFor_of_initialTokenRequest {c : AdminClient} {token : String} {request : Request}
    (h : c.initialTokenRequest token = .ok request) :
    AsksFor c c.initialExpiration.cappedSeconds request := by
  obtain ⟨-, credential, -, rfl⟩ := authorized_eq_ok h
  exact ⟨rfl, rfl, _, rfl⟩

end Admin

/-! ### Runs -/

namespace Provider

/-- **What is said when an initial access token is asked for**: an admin token is searched for, and
if there is one and the request with it can be sent, it is. There is no token without it. -/
inductive Posts (c : AdminClient) (seconds : Int) (w : World) :
    List Contact → Except AdminError String → Prop
  | early {here : List Contact} {e : AdminError} {v : World} (ends : EndsEarly c w here v)
      (unsent : ∀ token own arrival u, Obtains c w here token v →
        c.initialTokenRequest token = .ok own → ¬ v.Sends own arrival u) :
      Posts c seconds w here (.error e)
  | posted {here : List Contact} {token : String} {v u : World} {own : Request} {arrival : Arrival}
      {result : Except AdminError String} (obtains : Obtains c w here token v)
      (asks : AsksFor c seconds own) (sends : v.Sends own arrival u) :
      Posts c seconds w (here ++ [⟨own, arrival⟩]) result

/-- **Asking for an initial access token** posts the seconds of the lifetime. -/
theorem tokenForRegistration_posts (c : AdminClient) (watch : Watch) (w : World) :
    Posts c c.initialExpiration.cappedSeconds w (w.contacts (c.tokenForRegistration watch))
      (w.perform (c.tokenForRegistration watch)).1 := by
  unfold AdminClient.tokenForRegistration
  rcases authorizedExchange_runs c watch AdminClient.initialTokenOperation c.initialTokenRequest
    (successDocument watch readInitialToken AdminClient.initialTokenOperation) w with
    ⟨here, e, v, ends, runs⟩ | ⟨here, token, v, own, arrival, u, obtains, prepared, sends, runs⟩
  · rw [runs.contacts_eq, runs.performs]
    refine .early ends fun token own arrival u obtains prepared sends => ?_
    -- else the run would have one more contact than it has
    have more : here = here ++ [⟨own, arrival⟩] := runs.contacts_eq.symm.trans
      (obtains.exchange_runs (fun _ => obtains.live sends) prepared sends _).contacts_eq
    simp at more
  · rw [runs.contacts_eq]
    exact .posted obtains (asksFor_of_initialTokenRequest prepared) sends

/-- **Which lifetime is asked for.** In every run the same number of seconds is asked for. It is
less than one second short of the lifetime of the client, or the greatest number there is; and it is
positive, so that the token expires, exactly when the lifetime is one second or more. -/
theorem lifetime_posted_pos_iff (c : AdminClient) :
    ∃ seconds : Nat,
      (∀ watch w, Posts c seconds w (w.contacts (c.tokenForRegistration watch))
        (w.perform (c.tokenForRegistration watch)).1) ∧
      (seconds = 9223372036854775807 ∨
        seconds * 1000000000 ≤ c.initialExpiration.nanoseconds ∧
          c.initialExpiration.nanoseconds < (seconds + 1) * 1000000000) ∧
      (0 < seconds ↔ 1000000000 ≤ c.initialExpiration.nanoseconds) :=
  ⟨c.initialExpiration.cappedSeconds, tokenForRegistration_posts c,
    c.initialExpiration.cappedSeconds_bounds, c.initialExpiration.cappedSeconds_pos_iff⟩

/-- A world with a usable admin token, in which the provider issues initial access tokens. -/
def granting : World where
  cancelled := false
  clock := .epoch
  token := some ⟨"t", Instant.epoch.advance 1⟩
  agent := none
  script := []
  fallback :=
    ⟨.reply ⟨200, ⟨[.chunk (Text.Utf8.encode "\x7b\"token\":\"i\"\x7d".toList)], true⟩⟩, 0⟩
  sent := []

/-- **A token that does not expire** is asked for and had, where half a second is the lifetime. -/
theorem posts_endless : ∃ lifetime, Duration.parse? "500ms".toList = some lifetime ∧
    0 < lifetime.nanoseconds ∧
    let run := granting.perform (AdminClient.tokenForRegistration
      { localClient with initialExpiration := lifetime } .atRequests)
    run.1 = .ok "i" ∧ run.2.sent.map Request.body =
      [.octets (Text.Utf8.encode "\x7b\"count\":1,\"expiration\":0\x7d".toList)] :=
  ⟨⟨500000000⟩, by decide, by decide, by decide, rfl⟩

end Provider

end RealmKeeper
