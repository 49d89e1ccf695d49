import RealmKeeper.Proofs.FormPairs
import RealmKeeper.Proofs.OperationErrors
import RealmKeeper.Proofs.TokenCache
import RealmKeeper.Proofs.TokenRotation

/-!
# Looking a client up

The lookup of a client asks for one identifier, and selects the client with this identifier.

* `formPairs_clientsEndpoint`: the pairs of its query are those of the base URL and the identifier;
* `text_withoutUser_clientsEndpoint_injective`: other identifiers are looked up at other places;
* `Lists`: the provider lists clients, and `Selects`: which of them is selected;
* `findClient_ends`: every search selects from listed clients, or it fails in talking to the
  provider;
* `lookup_is_exact`: all of this for every identifier.
-/

namespace RealmKeeper

theorem Url.addQueryPair_injective (u : Url) {pair other : List Char × List Char}
    (h : (u.addQueryPair pair).text = (u.addQueryPair other).text) : pair = other := by
  have written := String.ofList_inj.mp h
  -- only the query differs, with what is before and after it the same
  have queries := List.append_cancel_right (List.append_cancel_left written)
  exact appendPair_injective _ (List.cons_inj_right _ |>.mp queries)

namespace Admin

open RealmKeeper.Http RealmKeeper.Json

/-! ### The place of a lookup -/

section place

variable (c : AdminClient) (clientId : String)

theorem query_clientsEndpoint : (c.clientsEndpoint clientId).query =
    some (Url.appendPair (c.baseUrl.query.getD []) ("clientId".toList, clientId.toList)) := by
  obtain ⟨segments, hp⟩ := exists_segments c
  unfold AdminClient.clientsEndpoint
  rw [endpoint_eq hp]
  rfl

/-- **The pairs of the query** are those of the base URL, and the identifier. -/
theorem formPairs_clientsEndpoint :
    Url.formPairs ((c.clientsEndpoint clientId).query.getD []) =
      Url.formPairs (c.baseUrl.query.getD []) ++ [("clientId".toList, clientId.toList)] := by
  rw [query_clientsEndpoint]
  exact Url.formPairs_appendPair _ _

variable {clientId} {other : String}

theorem exists_clientsRequest {token : String} (http : c.baseUrl.isHttp = true)
    (legal : (bearer? token).isSome = true) :
    ∃ request, c.clientsRequest clientId token = .ok request := by
  obtain ⟨credential, legal⟩ := Option.isSome_iff_exists.mp legal
  have scheme : (c.clientsEndpoint clientId).isHttp = true := (isHttp_endpoint c _).trans http
  exact ⟨⟨"GET", (c.clientsEndpoint clientId).withoutUser, _, .none⟩,
    authorized_eq_ok_iff.mpr ⟨scheme, rfl, rfl, ⟨credential, legal, rfl⟩, rfl⟩⟩

theorem query_clientsEndpoint_injective
    (h : (c.clientsEndpoint clientId).query = (c.clientsEndpoint other).query) :
    clientId = other := by
  rw [query_clientsEndpoint, query_clientsEndpoint] at h
  exact String.toList_inj.mp (congrArg Prod.snd (Url.appendPair_injective _ (Option.some.inj h)))

/-- **Other identifiers are looked up at other places.** -/
theorem text_withoutUser_clientsEndpoint_injective
    (h : (c.clientsEndpoint clientId).withoutUser.text =
      (c.clientsEndpoint other).withoutUser.text) : clientId = other :=
  String.toList_inj.mp (congrArg Prod.snd
    ((c.endpoint ["admin", "realms", c.realm, "clients"]).withoutUser.addQueryPair_injective h))

end place

/-! ### The selected client -/

namespace AdminClient

variable (c : AdminClient) (watch : Watch) (clientId : String)

/-- The clients that the provider lists for an identifier. -/
def listing : Operating (List ClientEntry) :=
  c.authorizedExchange watch clientOperation (c.clientsRequest clientId)
    (successDocument watch readClients clientOperation)

theorem failsWith_listing : (c.listing watch clientId).FailsWith AdminError.IsOfExchange :=
  c.failsWith_authorizedExchange watch _ _ (fun _ => id) fun _ _ => isOfExchange_successDocument

/-- **A client is selected** from a listing. -/
theorem findClient_eq : c.findClient watch clientId =
    (c.listing watch clientId).andThen fun entries => .done (selectClient clientId entries) := by
  have selected (token : String) :
      exchange clientOperation (c.clientsRequest clientId token) (fun response =>
        (successDocument watch readClients clientOperation response).bind (selectClient clientId)) =
      (exchange clientOperation (c.clientsRequest clientId token)
        (successDocument watch readClients clientOperation)).andThen
          fun entries => .done (selectClient clientId entries) := by
    refine congrArg (Dialog.ask (Question.send _)) (funext fun reply => ?_)
    cases reply with
    | answered response =>
      show Dialog.done (Except.bind _ _) = Operating.andThen (.done _) _
      cases successDocument watch readClients clientOperation response <;> rfl
    | _ => rfl
  rw [listing, authorizedExchange, Provider.andThen_assoc, ← funext selected]
  rfl

end AdminClient

end Admin

namespace Provider

open RealmKeeper.Http RealmKeeper.Admin

variable {c : AdminClient} {watch : Watch} {clientId : String} {w v : World} {here : List Contact}
  {entries : List ClientEntry}

/-- **The provider lists clients** for an identifier: the lookup is answered with success, and the
answer holds these. -/
inductive Lists (c : AdminClient) (clientId : String) (w : World) :
    List Contact → List ClientEntry → World → Prop
  | intro {here : List Contact} {response : Response} {entries : List ClientEntry} {after : World}
      (answered : Answered c "GET" (c.clientsEndpoint clientId) w here response after)
      (success : response.isSuccess = true) (holds : response.Holds readClients entries) :
      Lists c clientId w here entries after

/-- **What is selected from listed clients**: the first with the identifier, or if there is none,
the error that there is no such client. -/
inductive Selects (clientId : String) (entries : List ClientEntry) :
    Except AdminError ClientEntry → Prop
  | found {entry : ClientEntry} (first : IsFirstFor clientId entry entries) :
      Selects clientId entries (.ok entry)
  | none (others : ∀ entry ∈ entries, entry.clientId ≠ clientId) :
      Selects clientId entries (.error (.clientNotFound clientId))

theorem selects_selectClient (clientId : String) (entries : List ClientEntry) :
    Selects clientId entries (AdminClient.selectClient clientId entries) := by
  cases selected : AdminClient.selectClient clientId entries with
  | ok entry => exact .found (isFirstFor_of_selectClient selected)
  | error e =>
    unfold AdminClient.selectClient at selected
    cases searched : entries.find? fun entry => entry.clientId = clientId with
    | some entry =>
      rw [searched] at selected
      cases selected
    | none =>
      rw [searched] at selected
      obtain rfl := Except.error.inj selected
      refine .none fun entry mem => ?_
      simpa using List.find?_eq_none.mp searched entry mem

theorem Lists.runs (h : Lists c clientId w here entries v) (watch : Watch) :
    w.Runs (c.findClient watch clientId) here (AdminClient.selectClient clientId entries) v := by
  obtain ⟨answered, success, holds⟩ := h
  have live : w.cancelled = false := by
    obtain ⟨obtains, -, sends⟩ := answered
    exact obtains.live sends
  have listed := (successDocument_eq_ok_iff watch AdminClient.clientOperation).mpr ⟨success, holds⟩
  have runs : w.Runs (c.findClient watch clientId) here _ v :=
    answered.runs (fun _ => live) AdminClient.clientOperation fun response =>
      (successDocument watch readClients AdminClient.clientOperation response).bind
        (AdminClient.selectClient clientId)
  rw [listed] at runs
  exact runs

/-- **Every search** selects from what is listed, or it fails in talking to the provider. -/
theorem findClient_ends (c : AdminClient) (watch : Watch) (clientId : String) (w : World) :
    (∃ here entries v, Lists c clientId w here entries v) ∨
      ∃ e : AdminError, e.IsOfExchange ∧
        (w.perform (c.findClient watch clientId)).1 = .error e := by
  obtain ⟨here, result, v, runs, -, answered⟩ :=
    asking_runs c watch AdminClient.clientOperation "GET" (c.clientsEndpoint clientId)
      (successDocument watch readClients AdminClient.clientOperation) w
  cases result with
  | ok entries =>
    obtain ⟨response, answer, take⟩ := answered entries rfl
    obtain ⟨success, holds⟩ := (successDocument_eq_ok_iff watch _).mp take
    exact .inl ⟨here, entries, v, .intro answer success holds⟩
  | error e =>
    have listing : w.Runs (c.listing watch clientId) here (.error e) v := runs
    have failed := (c.failsWith_listing watch clientId).run World.answer w e
    refine .inr ⟨e, failed (congrArg Prod.fst listing.performs), ?_⟩
    rw [c.findClient_eq, listing.andThen_error.performs]

/-! ### Exact lookups -/

/-- **The lookup of a client is exact.** The pairs of its query are those of the base URL and the
identifier, every request for it goes there, and over HTTP there is one with every token that can be
presented; other identifiers are looked up at other places. From whatever clients are listed the
search gives the first with the identifier, or if there is none, the error that says so; and it
gives no client and no such error in another way. -/
theorem lookup_is_exact (c : AdminClient) (clientId : String) :
    (Url.formPairs ((c.clientsEndpoint clientId).query.getD []) =
        Url.formPairs (c.baseUrl.query.getD []) ++ [("clientId".toList, clientId.toList)] ∧
      (∀ token request, c.clientsRequest clientId token = .ok request →
        request.url = (c.clientsEndpoint clientId).withoutUser) ∧
      (c.baseUrl.isHttp = true → ∀ token, (bearer? token).isSome = true →
        ∃ request, c.clientsRequest clientId token = .ok request)) ∧
    (∀ other, other ≠ clientId →
      (c.clientsEndpoint other).query ≠ (c.clientsEndpoint clientId).query ∧
        (c.clientsEndpoint other).withoutUser.text ≠
          (c.clientsEndpoint clientId).withoutUser.text) ∧
    (∀ watch w here entries v, Lists c clientId w here entries v →
      ∃ result, w.Runs (c.findClient watch clientId) here result v ∧
        Selects clientId entries result) ∧
    ∀ watch w result, (w.perform (c.findClient watch clientId)).1 = result →
      ((∃ entry, result = .ok entry) ∨ ∃ id, result = .error (.clientNotFound id)) →
        ∃ here entries v, Lists c clientId w here entries v ∧ Selects clientId entries result := by
  refine ⟨⟨formPairs_clientsEndpoint c clientId, ?_, ?_⟩, ?_, ?_, ?_⟩
  · intro token request made
    exact (authorized_eq_ok_iff.mp made).url_eq
  · exact fun http token legal => exists_clientsRequest c http legal
  · intro other differ
    exact ⟨fun h => differ (query_clientsEndpoint_injective c h),
      fun h => differ (text_withoutUser_clientsEndpoint_injective c h)⟩
  · intro watch w here entries v lists
    exact ⟨_, lists.runs watch, selects_selectClient clientId entries⟩
  · rintro watch w result rfl decided
    rcases findClient_ends c watch clientId w with ⟨here, entries, v, lists⟩ | ⟨e, own, failed⟩
    · refine ⟨here, entries, v, lists, ?_⟩
      rw [(lists.runs watch).performs]
      exact selects_selectClient clientId entries
    · rw [failed] at decided
      rcases decided with ⟨entry, ⟨⟩⟩ | ⟨id, ⟨⟩⟩
      exact own.elim

/-- A provider that lists two clients, the second of which has the identifier. -/
def listingTwo : World :=
  .start none [⟨.reply (documentResponse "\x7b\"access_token\":\"a\"\x7d"), 0⟩,
    ⟨.reply (documentResponse ("[\x7b\"id\":\"x\",\"clientId\":\"C\"\x7d," ++
      "\x7b\"id\":\"i\",\"clientId\":\"c\"\x7d]")), 0⟩] ⟨.unreachable, 0⟩

/-- The second of the listed clients is found, and the lookup of another identifier goes to another
place. -/
theorem lookup_is_exact_second :
    (localClient.baseUrl.isHttp = true ∧ (bearer? "a").isSome = true ∧
      ∃ request, localClient.clientsRequest "c" "a" = .ok request ∧
        request.url = (localClient.clientsEndpoint "c").withoutUser) ∧
    ("C" ≠ "c" ∧
      (localClient.clientsEndpoint "C").query ≠ (localClient.clientsEndpoint "c").query) ∧
    ∃ entry, entry.id = "i" ∧
      (listingTwo.perform (localClient.findClient .atRequests "c")).1 = .ok entry ∧
      ∃ here entries v, Lists localClient "c" listingTwo here entries v ∧
        Selects "c" entries (.ok entry) := by
  obtain ⟨⟨-, place, made⟩, others, -, found⟩ := lookup_is_exact localClient "c"
  have legal : (bearer? "a").isSome = true := by decide
  have differ : "C" ≠ "c" := by decide
  obtain ⟨request, own⟩ := made rfl "a" legal
  refine ⟨⟨rfl, legal, request, own, place "a" request own⟩, ⟨differ, (others "C" differ).1⟩, ?_⟩
  have second : (listingTwo.perform (localClient.findClient .atRequests "c")).1.toOption.map
      (·.id) = some "i" := by
    decide +kernel
  cases result : (listingTwo.perform (localClient.findClient .atRequests "c")).1 with
  | error e =>
    rw [result] at second
    cases second
  | ok entry =>
    rw [result] at second
    exact ⟨entry, Option.some.inj second, rfl, found _ _ _ result (.inl ⟨entry, rfl⟩)⟩

end Provider

end RealmKeeper
