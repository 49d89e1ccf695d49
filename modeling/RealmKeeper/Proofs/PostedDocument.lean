import RealmKeeper.Proofs.History
import RealmKeeper.Proofs.RoundTrip
import RealmKeeper.Registration.Operations

/-!
# The documents that are sent

Registering a client sends its metadata as it is written, and changing a client sends a dictionary.

* `bodies`: the bodies of the requests that are executed in a run;
* `setMember`, `SameDocument`: a member is set, and members are the same document;
* `ClientMetadata.nodup_members_iff`, `ClientMetadata.sameDocument_iff`: the two documents agree
  exactly when no undeclared member has the name of a declared one that is written;
* `registrationRequest_cases`, `register_cases`, `update_cases`: how far the operations come without
  an answer to their request;
* `documents_agree_iff`: what the operations send, for all answers, and when it agrees;
* `documents_disagree`: a name that is sent twice.
-/

namespace RealmKeeper.Json

/-! ### Documents -/

/-- Members with one of them set: what was said under its name is taken out. -/
def setMember (name : String) (value : Json) (members : List (String × Json)) :
    List (String × Json) :=
  (members.filter fun m => m.1 ≠ name) ++ [(name, value)]

/-- **Members are the same document**: they give every name the same values. -/
def SameDocument (left right : List (String × Json)) : Prop :=
  ∀ name, valuesOf name left = valuesOf name right

theorem valuesOf_setMember (name other : String) (value : Json) (members : List (String × Json)) :
    valuesOf other (setMember name value members) =
      if other = name then [value] else valuesOf other members := by
  have kept : valuesOf other (members.filter fun m => m.1 ≠ name) =
      if decide (other ≠ name) then valuesOf other members else [] :=
    valuesOf_filter fun n => decide (n ≠ name)
  rw [setMember, valuesOf_append, kept]
  by_cases h : other = name
  · subst h
    simp
  · rw [valuesOf_cons_of_ne (Ne.symm h)]
    simp [h]

end RealmKeeper.Json

namespace RealmKeeper.Client.ClientMetadata

open RealmKeeper.Json

variable {m : ClientMetadata}

/-! ### Metadata as a document -/

/-- **No name is written twice** exactly when no undeclared member has the name of a declared one
that is written. -/
theorem nodup_members_iff :
    (m.members.map Prod.fst).Nodup ↔ m.extra.Avoids (m.declaredMembers.map Prod.fst) := by
  have declared : (m.declaredMembers.map Prod.fst).Nodup := by
    rw [declaredMembers_eq]
    exact Layout.names_written_sublist.nodup layout.names_nodup
  have extra : (m.extra.members.map Prod.fst).Nodup := m.extra.nodup_names
  rw [members, List.map_append, List.nodup_append']
  constructor
  · rintro ⟨-, -, disjoint⟩ name hn hx
    exact disjoint hn hx
  · intro avoids
    exact ⟨declared, extra, fun name hn hx => avoids name hn hx⟩

theorem valuesOf_toDict_insert (clientId : String) (name : String) :
    valuesOf name (m.toDict.insert "client_id" (.string clientId)).members =
      if name = "client_id" then [.string clientId]
      else ((valuesOf name m.members).getLast?.map canonical).toList := by
  rw [Dict.valuesOf_members, Dict.get?_insert, toDict, Dict.get?_ofMembers]
  by_cases h : name = "client_id"
  · rw [if_pos h, if_pos h]
    rfl
  · rw [if_neg h, if_neg h]

/-- **The document of an update is the written metadata with the identifier set** exactly when no
undeclared member has the name of a declared one that is written. -/
theorem sameDocument_iff (clientId : String) :
    SameDocument (setMember "client_id" (.string clientId) m.members)
        (m.toDict.insert "client_id" (.string clientId)).members ↔
      m.extra.Avoids (m.declaredMembers.map Prod.fst) := by
  constructor
  · intro same name hn hx
    -- the identifier is no declared member of metadata
    have ne : name ≠ "client_id" := by
      rintro rfl
      rw [declaredMembers_eq] at hn
      exact absurd (Layout.names_written_sublist.subset hn) (by decide)
    have last := same name
    rw [valuesOf_setMember, valuesOf_toDict_insert, if_neg ne, if_neg ne] at last
    have one : (valuesOf name m.members).length ≤ 1 := by
      rw [last]
      cases (valuesOf name m.members).getLast?.map canonical <;> simp
    have declared : valuesOf name m.declaredMembers ≠ [] := by
      rwa [Ne, valuesOf_eq_nil_iff, not_not]
    have extra : valuesOf name m.extra.members ≠ [] := by
      rwa [Ne, valuesOf_eq_nil_iff, not_not]
    rw [members, valuesOf_append, List.length_append] at one
    have := List.length_pos_of_ne_nil declared
    have := List.length_pos_of_ne_nil extra
    omega
  · intro avoids name
    obtain ⟨value, once, canonical⟩ := sayOnce_members avoids name
    rw [valuesOf_setMember, valuesOf_toDict_insert, once, last_toList canonical]

end RealmKeeper.Client.ClientMetadata

namespace RealmKeeper.Registration

open RealmKeeper.Http RealmKeeper.Client RealmKeeper.Json RealmKeeper.Admin

variable {S σ α : Type}

/-! ### What operations send -/

/-- **The bodies of the requests that are executed** in a run. -/
def bodies (answer : (q : Question S) → StateM σ (Answer q)) (d : Operating S α) (s : σ) :
    List RequestBody :=
  (d.history answer s).filterMap fun moment =>
    match moment.1 with
    | .initialToken _ _ => none
    | .execute _ request => some request.body

/-- A registration comes to its request: there is a source, which gives a token that can be
presented, and the endpoint is a URL. -/
def Registers (answer : (q : Question S) → StateM σ (Answer q)) (source : Option S)
    (context : Context) (endpoint : String) (s : σ) : Prop :=
  ∃ giver url token, source = some giver ∧ parseEndpoint .register endpoint = .ok url ∧
    (answer (.initialToken giver context.anonymous) s).1 = .ok token ∧ (bearer? token).isSome

theorem exists_buildRequest (operation : Operation) (url : Url) {token : String}
    (legal : (bearer? token).isSome) (document : Option Json) :
    ∃ request, buildRequest operation url token document = .ok request ∧
      request.body = document.elim .none (.octets <| bytes ·) := by
  obtain ⟨credential, legal⟩ := Option.isSome_iff_exists.mp legal
  unfold buildRequest
  rw [legal]
  cases document <;> exact ⟨_, rfl, rfl⟩

theorem buildRequest_of_illegal {operation : Operation} {url : Url} {token : String}
    (illegal : ¬ (bearer? token).isSome) (document : Option Json) :
    buildRequest operation url token document = .error (.invalidToken operation) := by
  unfold buildRequest
  rw [Option.not_isSome_iff_eq_none.mp illegal]

/-- The registration has a URL for the operation, and the token can be presented. -/
def IsAddressed (operation : Operation) (registrationUri token : String) : Prop :=
  ∃ url, registrationUrl operation registrationUri = .ok url ∧ (bearer? token).isSome

/-- **An operation on a registration has a request** exactly when it is addressed. -/
theorem registrationRequest_cases (operation : Operation) (registrationUri token : String)
    (document : Option Json) :
    (IsAddressed operation registrationUri token ∧ ∃ request,
        registrationRequest operation registrationUri token document = .ok request ∧
          request.body = document.elim .none (.octets <| bytes ·)) ∨
      ¬ IsAddressed operation registrationUri token ∧ ∃ e,
        registrationRequest operation registrationUri token document = .error e := by
  unfold registrationRequest
  cases parsed : registrationUrl operation registrationUri with
  | error e =>
    refine .inr ⟨?_, e, rfl⟩
    rintro ⟨url, parsed', -⟩
    cases parsed.symm.trans parsed'
  | ok url =>
    by_cases legal : (bearer? token).isSome
    · exact .inl ⟨⟨url, parsed, legal⟩, exists_buildRequest operation url legal document⟩
    · exact .inr ⟨fun ⟨_, _, legal'⟩ => legal legal', _, buildRequest_of_illegal legal document⟩

variable {answer : (q : Question S) → StateM σ (Answer q)}

/-- **A registration comes to its request**, which is executed after its token is given; or it ends
without one, before it asks for a token or after that. -/
theorem register_cases (answer : (q : Question S) → StateM σ (Answer q)) (source : Option S)
    (context : Context) (endpoint : String) (metadata : ClientMetadata) (s : σ) :
    (Registers answer source context endpoint s ∧ ∃ giver next request,
        register source context endpoint metadata =
            .ask (.initialToken giver context.anonymous) next ∧
          next (answer (.initialToken giver context.anonymous) s).1 =
            executeForInformation context.anonymous .register request ∧
          request.body = .octets (bytes metadata.toJson)) ∨
      ¬ Registers answer source context endpoint s ∧
        ((∃ e, register source context endpoint metadata = .done (.error e)) ∨
          ∃ giver next e, register source context endpoint metadata =
              .ask (.initialToken giver context.anonymous) next ∧
            next (answer (.initialToken giver context.anonymous) s).1 = .done (.error e)) := by
  unfold register
  cases source with
  | none =>
    refine .inr ⟨?_, .inl ⟨_, rfl⟩⟩
    rintro ⟨_, _, _, ⟨⟩, -⟩
  | some giver =>
    cases parsed : parseEndpoint .register endpoint with
    | error e =>
      refine .inr ⟨?_, .inl ⟨_, rfl⟩⟩
      rintro ⟨_, url, _, -, parsed', -⟩
      cases parsed.symm.trans parsed'
    | ok url =>
      cases given : (answer (.initialToken giver context.anonymous) s).1 with
      | error cause =>
        refine .inr ⟨?_, .inr ⟨giver, _, .initialAccessToken cause, rfl, by rw [given]⟩⟩
        rintro ⟨_, _, token, ⟨⟩, -, given', -⟩
        cases given.symm.trans given'
      | ok token =>
        by_cases legal : (bearer? token).isSome
        · obtain ⟨request, built, body⟩ :=
            exists_buildRequest .register url legal (some metadata.toJson)
          refine .inl ⟨⟨giver, url, token, rfl, parsed, given, legal⟩, giver, _, request, rfl, ?_,
            body⟩
          simp only [given, built]
        · refine .inr ⟨?_, .inr ⟨giver, _, .invalidToken .register, rfl, ?_⟩⟩
          · rintro ⟨_, _, token', ⟨⟩, -, given', legal'⟩
            obtain rfl := Except.ok.inj (given.symm.trans given')
            exact legal legal'
          · simp only [given, buildRequest_of_illegal legal]

/-- **Registering sends the metadata as it is written**, once, if it comes to its request. -/
theorem bodies_register (source : Option S) (context : Context) (endpoint : String)
    (metadata : ClientMetadata) (s : σ) :
    Registers answer source context endpoint s ∧
        bodies answer (register source context endpoint metadata) s =
          [.octets (bytes metadata.toJson)] ∨
      ¬ Registers answer source context endpoint s ∧
        bodies answer (register source context endpoint metadata) s = [] := by
  rcases register_cases answer source context endpoint metadata s with
    ⟨comes, giver, next, request, asks, executes, body⟩ |
    ⟨fails, ⟨e, ends⟩ | ⟨giver, next, e, asks, ends⟩⟩
  · refine .inl ⟨comes, ?_⟩
    rw [bodies, asks, Dialog.history_ask, executes, ← body]
    rfl
  · refine .inr ⟨fails, ?_⟩
    rw [bodies, ends]
    rfl
  · refine .inr ⟨fails, ?_⟩
    rw [bodies, asks, Dialog.history_ask, ends]
    rfl

/-- **An update executes one request**, which carries its document, if it is addressed. -/
theorem update_cases (S : Type) (context : Context) (clientId registrationUri token : String)
    (metadata : ClientMetadata) :
    (IsAddressed .update registrationUri token ∧ ∃ request,
        request.body = .octets (bytes (metadata.updateDocument clientId)) ∧
          update (S := S) context clientId registrationUri token metadata =
            executeForInformation (context.forClient clientId) .update request) ∨
      ¬ IsAddressed .update registrationUri token ∧ ∃ e,
        update (S := S) context clientId registrationUri token metadata = .done (.error e) := by
  unfold update
  rcases registrationRequest_cases .update registrationUri token
    (some (metadata.updateDocument clientId)) with ⟨addressed, request, built, body⟩ |
    ⟨fails, e, refused⟩
  · rw [built]
    exact .inl ⟨addressed, request, body, rfl⟩
  · rw [refused]
    exact .inr ⟨fails, e, rfl⟩

/-- **Changing a client sends the document of the update**, once, if it comes to its request. -/
theorem bodies_update (context : Context) (clientId registrationUri token : String)
    (metadata : ClientMetadata) (s : σ) :
    IsAddressed .update registrationUri token ∧
        bodies answer (update context clientId registrationUri token metadata) s =
          [.octets (bytes (metadata.updateDocument clientId))] ∨
      ¬ IsAddressed .update registrationUri token ∧
        bodies answer (update context clientId registrationUri token metadata) s = [] := by
  rcases update_cases S context clientId registrationUri token metadata with
    ⟨addressed, request, body, executes⟩ | ⟨fails, e, ends⟩
  · rw [executes, ← body]
    exact .inl ⟨addressed, rfl⟩
  · rw [ends]
    exact .inr ⟨fails, rfl⟩

/-- **What registering and changing a client send**, whatever is answered. Registering sends the
metadata as it is written, and changing a client another document; that the first names no member
twice, and that the second is the first with the identifier set, both hold exactly when no
undeclared member has the name of a declared one that is written. -/
theorem documents_agree_iff (metadata : ClientMetadata) :
    (∀ {S σ : Type} (answer : (q : Question S) → StateM σ (Answer q)) (source : Option S)
        (context : Context) (endpoint : String) (s : σ),
      Registers answer source context endpoint s ∧
          bodies answer (register source context endpoint metadata) s =
            [.octets (bytes (.object metadata.members))] ∨
        ¬ Registers answer source context endpoint s ∧
          bodies answer (register source context endpoint metadata) s = []) ∧
    ((metadata.members.map Prod.fst).Nodup ↔
      metadata.extra.Avoids (metadata.declaredMembers.map Prod.fst)) ∧
    ∀ clientId : String, ∃ updated,
      (∀ {S σ : Type} (answer : (q : Question S) → StateM σ (Answer q)) (context : Context)
          (registrationUri token : String) (s : σ),
        IsAddressed .update registrationUri token ∧
            bodies answer (update context clientId registrationUri token metadata) s =
              [.octets (bytes (.object updated))] ∨
          ¬ IsAddressed .update registrationUri token ∧
            bodies answer (update context clientId registrationUri token metadata) s = []) ∧
      (SameDocument (setMember "client_id" (.string clientId) metadata.members) updated ↔
        metadata.extra.Avoids (metadata.declaredMembers.map Prod.fst)) := by
  refine ⟨fun answer source context endpoint s => ?_, ClientMetadata.nodup_members_iff,
    fun clientId => ⟨_, fun answer context registrationUri token s => ?_,
      ClientMetadata.sameDocument_iff clientId⟩⟩
  · exact bodies_register source context endpoint metadata s
  · exact bodies_update context clientId registrationUri token metadata s

/-- Metadata whose undeclared members have the name of a declared one. -/
def namedTwice : ClientMetadata :=
  { ClientMetadata.blank with
    clientName := some "x"
    extra := Dict.ofMembers [("client_name", .string "y")] }

/-- Answers that give a token and no response. -/
def grant : (q : Question Unit) → StateM Unit (Answer q)
  | .initialToken _ _ => pure (.ok "t")
  | .execute _ _ => pure (.error .cancelled)

/-- **A document that names a member twice**: the name of the client is sent twice when it is
registered, and once when it is changed. -/
theorem documents_disagree :
    bodies grant (register (some ()) default "https://idp.test/clients" namedTwice) () =
        [.octets (Text.Utf8.encode
          "\x7b\"client_name\":\"x\",\"client_name\":\"y\"\x7d".toList)] ∧
      bodies grant (update default "c" "https://idp.test/clients/c" "t" namedTwice) () =
        [.octets (Text.Utf8.encode
          "\x7b\"client_id\":\"c\",\"client_name\":\"y\"\x7d".toList)] ∧
      ¬ (namedTwice.members.map Prod.fst).Nodup := by
  refine ⟨rfl, rfl, by decide⟩

end RealmKeeper.Registration
