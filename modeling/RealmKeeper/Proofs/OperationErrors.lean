import RealmKeeper.Admin.Operations
import Mathlib.Tactic.Common

/-!
# The errors of operations

Which errors the operations of the administrative client end with, whatever is answered to their
questions.

* `Dialog.Always`: all results of a dialogue are of a kind, and `Always.run`: so is that of a run;
* `Operating.FailsWith`: all errors of an operation are of a kind;
* `AdminError.IsOfExchange`: an error of talking to the provider, the only ones of
  `failsWith_accessToken`, `failsWith_realmExists` and `failsWith_tokenForRegistration`;
* `failsWith_findClient`, `failsWith_refreshToken`: besides these, there may be no such client.
-/

namespace RealmKeeper

/-! ### All results of a dialogue -/

namespace Dialog

variable {Q σ : Type} {A : Q → Type} {α β : Type}

/-- **All results of the dialogue are of the kind**, whatever is answered. -/
def Always (P : α → Prop) : Dialog A α → Prop
  | .done a => P a
  | .ask _ next => ∀ answer, (next answer).Always P

theorem Always.of_forall {P : α → Prop} (h : ∀ a, P a) (d : Dialog A α) : d.Always P := by
  induction d with
  | done a => exact h a
  | ask q next ih => exact ih

theorem Always.imp {P R : α → Prop} {d : Dialog A α} (h : d.Always P) (imp : ∀ a, P a → R a) :
    d.Always R := by
  induction d with
  | done a => exact imp a h
  | ask q next ih => exact fun answer => ih answer (h answer)

theorem Always.bind {P : α → Prop} {R : β → Prop} {d : Dialog A α} {f : α → Dialog A β}
    (h : d.Always P) (next : ∀ a, P a → (f a).Always R) : (d >>= f).Always R := by
  induction d with
  | done a => exact next a h
  | ask q rest ih => exact fun answer => ih answer (h answer)

/-- **What a run gives** is of the kind. -/
theorem Always.run {P : α → Prop} {d : Dialog A α} (h : d.Always P)
    (answer : (q : Q) → StateM σ (A q)) (s : σ) : P (d.run answer s).1 := by
  induction d generalizing s with
  | done a => exact h
  | ask q next ih => exact ih (answer q s).1 (h (answer q s).1) (answer q s).2

end Dialog

namespace Admin

open RealmKeeper.Http RealmKeeper.Json

variable {α β : Type} {E E' : AdminError → Prop}

/-! ### Kinds of errors -/

/-- **The error is one of talking to the provider**: it is neither that of a base URL nor that of a
client which is not listed. -/
def AdminError.IsOfExchange : AdminError → Prop
  | .request _ _ | .unexpectedStatus _ _ _ | .decode _ _ | .cancelled _ => True
  | .invalidBaseUrl _ | .clientNotFound _ => False

/-- **All errors of the operation are of the kind**, whatever is answered. -/
def Operating.FailsWith (E : AdminError → Prop) (d : Operating α) : Prop :=
  Dialog.Always (fun result => ∀ e, result = .error e → E e) d

theorem Operating.FailsWith.andThen {d : Operating α} {f : α → Operating β}
    (h : d.FailsWith E) (next : ∀ a, (f a).FailsWith E) : (d.andThen f).FailsWith E := by
  refine Dialog.Always.bind h fun result failed => ?_
  cases result with
  | ok a => exact next a
  | error e =>
    rintro e' ⟨⟩
    exact failed e rfl

theorem Operating.FailsWith.imp {d : Operating α} (h : d.FailsWith E) (imp : ∀ e, E e → E' e) :
    d.FailsWith E' :=
  Dialog.Always.imp h fun _ failed e he => imp e (failed e he)

/-! ### Responses -/

variable {watch : Watch} {read : ValueTree Fault → Decoded α} {operation : String}
  {response : Response}

theorem isOfExchange_unexpected (watch : Watch) (operation : String) (response : Response) :
    (unexpected watch operation response).IsOfExchange := by
  unfold unexpected
  cases watch with
  | atRequests => trivial
  | everywhere => cases response.body.guardedExcerpt <;> trivial

theorem isOfExchange_document {e : AdminError} (h : document read operation response = .error e) :
    e.IsOfExchange := by
  unfold document at h
  split at h
  · obtain rfl := Except.error.inj h
    trivial
  · obtain rfl := Except.error.inj h
    trivial
  · cases hr : readBytes read ‹_› with
    | error fault =>
      rw [hr] at h
      obtain rfl := Except.error.inj h
      trivial
    | ok value =>
      rw [hr] at h
      cases h

theorem isOfExchange_successDocument {e : AdminError}
    (h : successDocument watch read operation response = .error e) : e.IsOfExchange := by
  unfold successDocument succeeded at h
  by_cases success : response.isSuccess = true
  · rw [if_pos success] at h
    exact isOfExchange_document h
  · rw [if_neg success] at h
    obtain rfl := Except.error.inj h
    exact isOfExchange_unexpected watch operation response

/-! ### Operations -/

theorem failsWith_exchange (operation : String) (prepared : AdminClient.Prepared)
    {take : Response → Except AdminError α} (own : ∀ e : AdminError, e.IsOfExchange → E e)
    (taken : ∀ response e, take response = .error e → E e) :
    (exchange operation prepared take).FailsWith E := by
  intro reply
  cases reply with
  | answered response => exact taken response
  | failed cause =>
    rintro e ⟨⟩
    exact own _ trivial
  | cancelled =>
    rintro e ⟨⟩
    exact own _ trivial

namespace AdminClient

variable (c : AdminClient) (watch : Watch)

theorem failsWith_fetchToken : (c.fetchToken watch).FailsWith AdminError.IsOfExchange := by
  refine (failsWith_exchange _ _ (fun _ => id) fun _ _ => isOfExchange_successDocument).andThen
    fun issued => ?_
  rintro now kept e ⟨⟩

theorem failsWith_currentToken : (c.currentToken watch).FailsWith AdminError.IsOfExchange := by
  intro stored
  cases stored with
  | none => exact c.failsWith_fetchToken watch
  | some token =>
    intro now
    by_cases usable : token.isUsableAt now = true
    · simp only [if_pos usable]
      rintro e ⟨⟩
    · simp only [if_neg usable]
      exact c.failsWith_fetchToken watch

theorem failsWith_accessToken : (c.accessToken watch).FailsWith AdminError.IsOfExchange := by
  intro given
  cases given with
  | false =>
    rintro e ⟨⟩
    trivial
  | true => exact Dialog.Always.bind (c.failsWith_currentToken watch) fun result failed _ => failed

/-- **An operation with a request of its own** fails in talking to the provider, or as its response
is taken. -/
theorem failsWith_authorizedExchange (operation : String) (request : String → Prepared)
    {take : Response → Except AdminError α} (own : ∀ e : AdminError, e.IsOfExchange → E e)
    (taken : ∀ response e, take response = .error e → E e) :
    (c.authorizedExchange watch operation request take).FailsWith E :=
  ((c.failsWith_accessToken watch).imp own).andThen fun token =>
    failsWith_exchange operation (request token) own taken

theorem failsWith_realmExists (realm : String) :
    (c.realmExists watch realm).FailsWith AdminError.IsOfExchange := by
  refine c.failsWith_authorizedExchange watch _ _ (fun _ => id) fun response e he => ?_
  unfold existenceOf at he
  split_ifs at he
  obtain rfl := Except.error.inj he
  exact isOfExchange_unexpected watch _ response

theorem failsWith_tokenForRegistration :
    (c.tokenForRegistration watch).FailsWith AdminError.IsOfExchange :=
  c.failsWith_authorizedExchange watch _ _ (fun _ => id) fun _ _ => isOfExchange_successDocument

theorem failsWith_findClient (clientId : String) :
    (c.findClient watch clientId).FailsWith fun e =>
      e.IsOfExchange ∨ e = .clientNotFound clientId := by
  refine c.failsWith_authorizedExchange watch _ _ (fun _ => .inl) fun response e he => ?_
  cases listed : successDocument watch readClients clientOperation response with
  | error cause =>
    rw [listed] at he
    exact .inl (Except.error.inj he ▸ isOfExchange_successDocument listed)
  | ok entries =>
    rw [listed] at he
    have selected : selectClient clientId entries = .error e := he
    unfold selectClient at selected
    split at selected
    · cases selected
    · exact .inr (Except.error.inj selected).symm

theorem failsWith_refreshToken (clientId : String) :
    (c.refreshToken watch clientId).FailsWith fun e =>
      e.IsOfExchange ∨ e = .clientNotFound clientId :=
  (c.failsWith_findClient watch clientId).andThen fun _ =>
    c.failsWith_authorizedExchange watch _ _ (fun _ => .inl) fun _ _ failed =>
      .inl (isOfExchange_successDocument failed)

end AdminClient

end Admin

end RealmKeeper
