import RealmKeeper.Proofs.Excerpts
import RealmKeeper.Proofs.TokenCache

/-!
# The texts in errors

Of a response with an unexpected status an error keeps a text for diagnostics.

* `Faithful`: an error that is taken from a response has its status and the text of its body;
* `Tells`: an error of an administrative operation tells of a response that the operation was
  answered with, and `tells_action`: each operation does;
* `kept_texts_fit_iff`: how long the texts in errors are, and `kept_text_exceeds`: one that is
  longer than the limit.
-/

namespace RealmKeeper

open RealmKeeper.Http RealmKeeper.Client RealmKeeper.Admin RealmKeeper.Text

/-! ### Errors of administrative operations -/

namespace Provider

/-- **What is taken from a response blames it faithfully**: an error about an unexpected status has
the status of the response and the text that is kept of its body. -/
def Faithful {α : Type} (take : Response → Except AdminError α) : Prop :=
  ∀ response operation status text,
    take response = .error (.unexpectedStatus operation status text) →
      response.status = status ∧ text = response.body.excerpt

section faithful

variable {α : Type} (watch : Watch) (operation : String)

theorem unexpected_tells {watch : Watch} {operation operation' text : String} {response : Response}
    {status : Nat}
    (h : unexpected watch operation response = .unexpectedStatus operation' status text) :
    response.status = status ∧ text = response.body.excerpt := by
  unfold unexpected Delivery.guardedExcerpt at h
  cases watch with
  | atRequests =>
    cases h
    exact ⟨rfl, rfl⟩
  | everywhere =>
    split_ifs at h
    cases h
    exact ⟨rfl, rfl⟩

theorem faithful_successDocument (read : Json.ValueTree Json.Fault → Json.Decoded α) :
    Faithful (successDocument watch read operation) := by
  intro response operation' status text h
  unfold successDocument succeeded at h
  split_ifs at h
  · -- what is wrong with the document is not about the status
    simp only [Except.bind, document] at h
    split at h
    · cases h
    · cases h
    · cases hr : Json.readBytes read _ <;> rw [hr] at h <;> cases h
  · exact unexpected_tells (Except.error.inj h)

theorem faithful_existenceOf : Faithful (AdminClient.existenceOf watch) := by
  intro response operation' status text h
  unfold AdminClient.existenceOf at h
  split_ifs at h
  exact unexpected_tells (Except.error.inj h)

theorem Faithful.bind {β : Type} {take : Response → Except AdminError α} (h : Faithful take)
    {choose : α → Except AdminError β}
    (other : ∀ a operation status text,
      choose a ≠ .error (.unexpectedStatus operation status text)) :
    Faithful fun response => (take response).bind choose := by
  intro response operation status text (hr : (take response).bind choose = _)
  cases taken : take response with
  | error e =>
    rw [taken] at hr
    obtain rfl := Except.error.inj hr
    exact h response operation status text taken
  | ok a =>
    rw [taken] at hr
    exact absurd hr (other a operation status text)

theorem faithful_find (clientId : String) :
    Faithful fun response => (successDocument watch readClients AdminClient.clientOperation
      response).bind (AdminClient.selectClient clientId) := by
  refine (faithful_successDocument watch _ _).bind fun clients operation status text h => ?_
  unfold AdminClient.selectClient at h
  split at h <;> cases h

end faithful

section tells

variable {σ α β : Type} {answer : (q : Question) → StateM σ (Answer q)} {s : σ}

/-- **A run is answered with the response** to one of its requests. -/
def AnsweredWith (answer : (q : Question) → StateM σ (Answer q)) (d : Dialog Answer α) (s : σ)
    (response : Response) : Prop :=
  ∃ prepared t, (Question.send prepared, t) ∈ d.history answer s ∧
    (answer (.send prepared) t).1 = .answered response

/-- **An error of the operation tells of a response** that the operation was answered with. -/
def Tells (answer : (q : Question) → StateM σ (Answer q)) (d : Admin.Operating α) (s : σ) : Prop :=
  ∀ operation status text,
    (d.run answer s).1 = .error (.unexpectedStatus operation status text) →
      ∃ response, AnsweredWith answer d s response ∧ response.status = status ∧
        text = response.body.excerpt

theorem Tells.ask {q : Question} {next : Answer q → Admin.Operating α}
    (h : Tells answer (next (answer q s).1) (answer q s).2) : Tells answer (.ask q next) s := by
  intro operation status text hr
  obtain ⟨response, ⟨prepared, t, mem, answered⟩, tells⟩ := h operation status text hr
  exact ⟨response, ⟨prepared, t, List.mem_cons_of_mem _ mem, answered⟩, tells⟩

theorem Tells.bind {d : Admin.Operating α} {f : Except AdminError α → Admin.Operating β}
    (h : Tells answer d s)
    (h' : ∀ operation status text,
      ((f (d.run answer s).1).run answer (d.run answer s).2).1 =
        .error (.unexpectedStatus operation status text) →
      (d.run answer s).1 = .error (.unexpectedStatus operation status text) ∨
        Tells answer (f (d.run answer s).1) (d.run answer s).2) :
    Tells answer (d.bind f) s := by
  intro operation status text hr
  have split := Dialog.history_bind answer d f s
  have goes : ((f (d.run answer s).1).run answer (d.run answer s).2).1 =
      .error (.unexpectedStatus operation status text) := by
    rw [← hr]
    exact congrArg Prod.fst (congrFun (Dialog.run_bind answer d f) s).symm
  rcases h' operation status text goes with first | second
  · obtain ⟨response, ⟨prepared, t, mem, answered⟩, tells⟩ := h operation status text first
    refine ⟨response, ⟨prepared, t, ?_, answered⟩, tells⟩
    exact split ▸ List.mem_append_left _ mem
  · obtain ⟨response, ⟨prepared, t, mem, answered⟩, tells⟩ := second operation status text goes
    refine ⟨response, ⟨prepared, t, ?_, answered⟩, tells⟩
    exact split ▸ List.mem_append_right _ mem

theorem Tells.andThen {d : Admin.Operating α} {f : α → Admin.Operating β} (h : Tells answer d s)
    (h' : ∀ a t, Tells answer (f a) t) : Tells answer (d.andThen f) s := by
  refine h.bind fun operation status text hr => ?_
  cases outcome : (d.run answer s).1 with
  | ok a => exact .inr (h' a _)
  | error e =>
    rw [outcome] at hr
    exact .inl (congrArg _ (Except.error.inj hr))

theorem tells_exchange {operation : String} {prepared : AdminClient.Prepared}
    {take : Response → Except AdminError α} (h : Faithful take) :
    Tells answer (exchange operation prepared take) s := by
  intro operation' status text hr
  obtain ⟨reply, t, goes⟩ : ∃ reply t, answer (.send prepared) s = (reply, t) := ⟨_, _, rfl⟩
  rw [exchange, Dialog.run_ask_of_eq answer goes] at hr
  cases reply with
  | answered response =>
    exact ⟨response, ⟨prepared, s, List.mem_cons_self, congrArg Prod.fst goes⟩,
      h response operation' status text hr⟩
  | failed | cancelled => cases hr

variable (c : AdminClient) (watch : Watch)

theorem tells_fetchToken : Tells answer (c.fetchToken watch) s :=
  (tells_exchange (faithful_successDocument watch _ _)).andThen fun _ _ =>
    .ask (.ask nofun)

theorem tells_currentToken : Tells answer (c.currentToken watch) s := by
  refine .ask ?_
  cases (answer .stored s).1 with
  | none => exact tells_fetchToken c watch
  | some token =>
    refine .ask ?_
    show Tells answer (ite _ _ _) _
    split_ifs
    · exact nofun
    · exact tells_fetchToken c watch

theorem tells_accessToken : Tells answer (c.accessToken watch) s := by
  refine .ask ?_
  show Tells answer (ite _ _ _) _
  split_ifs
  · exact (tells_currentToken c watch).bind fun _ _ _ => .inl
  · exact nofun

theorem tells_authorizedExchange {operation : String} {request : String → AdminClient.Prepared}
    {take : Response → Except AdminError α} (h : Faithful take) :
    Tells answer (c.authorizedExchange watch operation request take) s :=
  (tells_accessToken c watch).andThen fun _ _ => tells_exchange h

/-- **Every administrative operation tells** of a response that it was answered with. -/
theorem tells_action (action : Action) : Tells answer (action.dialog c watch) s := by
  have find (clientId : String) : ∀ t, Tells answer (c.findClient watch clientId) t :=
    fun t => tells_authorizedExchange c watch (faithful_find watch clientId)
  cases action with
  | realmExists realm => exact tells_authorizedExchange c watch (faithful_existenceOf watch)
  | tokenForRegistration =>
    exact tells_authorizedExchange c watch (faithful_successDocument watch _ _)
  | findClient clientId => exact find clientId s
  | refreshToken clientId =>
    exact (find clientId s).andThen fun _ _ =>
      tells_authorizedExchange c watch (faithful_successDocument watch _ _)

end tells

/-! ### All texts that are kept -/

/-- **How long the texts in errors are.** The error of a registration keeps a text of the body of
the response it is about, whatever the response is; and if an administrative operation, answered in
any way, ends with an unexpected status, then it was answered with a response of this status, and
the error keeps a text of its body. -/
theorem kept_texts_fit_iff {σ : Type} (operation : Operation) (response : Response)
    (answer : (q : Question) → StateM σ (Answer q)) (s : σ) (c : AdminClient) (watch : Watch)
    (action : Action) :
    response.body.Keeps (StatusError.ofResponse operation response).body ∧
    ∀ (name : String) (status : Nat) (text : String),
      ((action.dialog c watch).run answer s).1 = .error (.unexpectedStatus name status text) →
        ∃ told, AnsweredWith answer (action.dialog c watch) s told ∧
          told.status = status ∧ told.body.Keeps text := by
  refine ⟨response.body.keeps_excerpt, fun name status text h => ?_⟩
  obtain ⟨told, answered, hs, rfl⟩ := tells_action c watch action name status text h
  exact ⟨told, answered, hs, told.body.keeps_excerpt⟩

/-- A body that is longer than the limit by one octet: letters of one octet, and then one of two. -/
def accentedBody : Delivery :=
  ⟨[.chunk (Utf8.encode (List.replicate 4095 'a' ++ ['é']))], true⟩

/-- A world with a usable token, in which the next request is answered with this body. -/
def accentedWorld : World where
  cancelled := false
  clock := .epoch
  token := some ⟨"t", Instant.epoch.advance 1⟩
  agent := none
  script := []
  fallback := ⟨.reply ⟨500, accentedBody⟩, 0⟩
  sent := []

/-- The lookup of a realm that is answered so ends with the status and a text. -/
theorem kept_text_of_lookup :
    let lookup := (Action.realmExists "org").dialog localClient .atRequests
    ∃ text, (lookup.run World.answer accentedWorld).1 =
        .error (.unexpectedStatus "realm lookup" 500 text) ∧
      ∃ response, AnsweredWith World.answer lookup accentedWorld response ∧
        response.status = 500 ∧ response.body.Keeps text :=
  ⟨accentedBody.excerpt, rfl,
    (kept_texts_fit_iff .read ⟨500, accentedBody⟩ World.answer accentedWorld localClient .atRequests
      (.realmExists "org")).2 "realm lookup" 500 _ rfl⟩

/-- **A text that is longer than the limit**: the last letter is cut off after its first octet. -/
theorem kept_text_exceeds :
    Delivery.excerptLimit <
      (StatusError.ofResponse .read ⟨500, accentedBody⟩).body.utf8ByteSize := by
  have letters : (Utf8.encode (List.replicate 4095 'a')).length = 4095 :=
    Utf8.length_encode_replicate 4095 'a'
  have cut : accentedBody.octets.take Delivery.excerptLimit =
      Utf8.encode (List.replicate 4095 'a') ++ [0xC3] := by
    rw [accentedBody, Delivery.octets, List.flatMap_cons, List.flatMap_nil, List.append_nil,
      Utf8.encode_append, List.take_append, letters,
      List.take_of_length_le (by rw [letters]; decide)]
    rfl
  have begins : [0xC3] <+: Utf8.encodeNat 'é'.toNat := ⟨[0xA9], by decide⟩
  have size := Delivery.utf8ByteSize_excerpt_of_cut cut begins (by decide) (by decide)
  show Delivery.excerptLimit < accentedBody.excerpt.utf8ByteSize
  rw [size, letters]
  decide

end Provider

end RealmKeeper
