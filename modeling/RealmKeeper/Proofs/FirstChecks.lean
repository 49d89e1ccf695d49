import RealmKeeper.Proofs.PostedDocument
import RealmKeeper.Proofs.RegistrationRequests
import RealmKeeper.Proofs.Utf8

/-!
# First checks

What is wrong with an operation before anything is asked.

* `Dialog.AsksNothing`: a dialogue that is over before it begins;
* `bearer?_eq_none_iff`: which tokens cannot be presented;
* `FailsToRegister`, `FailsOn`: the first check of an operation that fails, with its error;
* `ChecksFirst`: an operation asks nothing exactly where such a check fails, and `checksFirst`: each
  of the four does so;
* `World.runs_of_asksNothing`: what asks nothing leaves the world as it is.
-/

namespace RealmKeeper

/-! ### Dialogues that ask nothing -/

namespace Dialog

variable {Q P : Type} {A : Q → Type} {B : P → Type} {α β : Type}

/-- **A dialogue that asks nothing** is over before it begins. -/
def AsksNothing (d : Dialog A α) : Prop :=
  ∃ a, d = .done a

theorem asksNothing_done (a : α) : AsksNothing (.done a : Dialog A α) := ⟨a, rfl⟩

theorem not_asksNothing_ask (q : Q) (next : A q → Dialog A α) : ¬ AsksNothing (.ask q next) := by
  rintro ⟨a, ⟨⟩⟩

theorem asksNothing_bind_done_iff {d : Dialog A α} {f : α → β} :
    AsksNothing (d.bind fun a => .done (f a)) ↔ d.AsksNothing := by
  cases d with
  | done a => exact iff_of_true (asksNothing_done _) (asksNothing_done _)
  | ask q next => exact iff_of_false (not_asksNothing_ask _ _) (not_asksNothing_ask _ _)

/-- Where each question is asked by a dialogue that asks something, nothing is asked of the others
only if there is no question. -/
theorem asksNothing_through_iff {inner : (q : Q) → Dialog B (A q)}
    (speaks : ∀ q, ¬ (inner q).AsksNothing) {d : Dialog A α} :
    (d.through inner).AsksNothing ↔ d.AsksNothing := by
  cases d with
  | done a => exact iff_of_true (asksNothing_done _) (asksNothing_done _)
  | ask q next =>
    refine iff_of_false ?_ (not_asksNothing_ask _ _)
    show ¬ AsksNothing ((inner q).bind _)
    cases asked : inner q with
    | done a => exact absurd ⟨a, asked⟩ (speaks q)
    | ask p rest => exact not_asksNothing_ask _ _

end Dialog

/-! ### Tokens that cannot be presented -/

namespace Http

open Text

/-- **A control character** other than the tab. -/
def IsControl (c : Char) : Prop :=
  c ≠ '\t' ∧ (c.toNat < 0x20 ∨ c.toNat = 0x7F)

theorem isFieldOctet_of_le {n : Nat} (low : 0x80 ≤ n) (high : n < 0x100) :
    isFieldOctet n.toUInt8 = true := by
  have value : n.toUInt8.toNat = n := Utf8.toNat_toUInt8 high
  have visible : (0x20 : UInt8) ≤ n.toUInt8 := by
    rw [UInt8.le_iff_toNat_le, value]
    exact Nat.le_trans (by decide) low
  have other : n.toUInt8 ≠ 0x7F := by
    intro same
    have := congrArg UInt8.toNat same
    rw [value] at this
    simp at this
    omega
  simp [isFieldOctet, visible, other]

theorem isFieldOctet_ascii {n : Nat} (h : n < 0x80) :
    isFieldOctet n.toUInt8 = false ↔ n ≠ 0x09 ∧ (n < 0x20 ∨ n = 0x7F) := by
  revert n
  decide

/-- **A character is legal** in the value of a field unless it is a control character. -/
theorem all_encodeNat_eq_false_iff (c : Char) :
    (Utf8.encodeNat c.toNat).all isFieldOctet = false ↔ IsControl c := by
  have tab : c ≠ '\t' ↔ c.toNat ≠ 0x09 := not_congr Char.toNat_inj.symm
  have range : c.toNat < 0xD800 ∨ 0xDFFF < c.toNat ∧ c.toNat < 0x110000 := c.valid
  rw [IsControl, tab]
  generalize c.toNat = n at range
  by_cases ascii : n < 0x80
  · rw [Utf8.encodeNat, if_pos ascii, List.all_cons, List.all_nil, Bool.and_true]
    exact isFieldOctet_ascii ascii
  -- the octets of all other characters are at least 0x80
  have legal : (Utf8.encodeNat n).all isFieldOctet = true := by
    have octet := @isFieldOctet_of_le
    unfold Utf8.encodeNat
    split_ifs <;> simp only [List.all_cons, List.all_nil, Bool.and_true, Bool.and_eq_true]
    · exact ⟨octet (by omega) (by omega), octet (by omega) (by omega)⟩
    · exact ⟨octet (by omega) (by omega), octet (by omega) (by omega), octet (by omega) (by omega)⟩
    · exact ⟨octet (by omega) (by omega), octet (by omega) (by omega), octet (by omega) (by omega),
        octet (by omega) (by omega)⟩
  rw [legal]
  constructor
  · nofun
  · omega

theorem ofString?_eq_none_iff (s : String) :
    HeaderValue.ofString? s = none ↔ ∃ c ∈ s.toList, IsControl c := by
  have octets : (Utf8.bytes s).all isFieldOctet = false ↔ ∃ c ∈ s.toList, IsControl c := by
    rw [Utf8.bytes, Utf8.encode, List.all_flatMap, List.all_eq_false]
    simp only [Bool.not_eq_true, all_encodeNat_eq_false_iff]
  rw [← octets, HeaderValue.ofString?, HeaderValue.ofOctets?]
  split <;> simp_all

/-- **A token can be presented** unless it holds a control character. -/
theorem bearer?_eq_none_iff (token : String) :
    bearer? token = none ↔ ∃ c ∈ token.toList, IsControl c := by
  have scheme : ∀ c ∈ "Bearer ".toList, ¬ IsControl c := by
    simp [IsControl]
  rw [bearer?, ofString?_eq_none_iff, String.toList_append]
  constructor
  · rintro ⟨c, hc, control⟩
    rcases List.mem_append.mp hc with hc | hc
    · exact absurd control (scheme c hc)
    · exact ⟨c, hc, control⟩
  · rintro ⟨c, hc, control⟩
    exact ⟨c, List.mem_append_right _ hc, control⟩

end Http

/-! ### Operations -/

namespace Registration

open Text Http Client Json

variable {S α : Type} {operation : Operation} {registrationUri token : String}
  {e : RegistrationError}

/-- **The first check of a registration that fails**: there is no source of tokens, or the endpoint
is no URL. -/
inductive FailsToRegister (source : Option S) (endpoint : String) : RegistrationError → Prop
  | source (missing : source = none) : FailsToRegister source endpoint .noCredentialSource
  | endpoint {giver : S} {cause : Url.UrlError} (given : source = some giver)
      (unparsable : Url.ofString endpoint = .error cause) :
      FailsToRegister source endpoint (.invalidEndpoint .register endpoint cause)

/-- **The first check of an operation on a registration that fails**: its URI is blank, or no URL,
or the token cannot be presented. -/
inductive FailsOn (operation : Operation) (registrationUri token : String) :
    RegistrationError → Prop
  | blank (blank : ∀ c ∈ registrationUri.toList, isBlank c = true) :
      FailsOn operation registrationUri token (.missingRegistrationUri operation)
  | uri {cause : Url.UrlError} (given : ∃ c ∈ registrationUri.toList, isBlank c = false)
      (unparsable : Url.ofString registrationUri = .error cause) :
      FailsOn operation registrationUri token (.invalidEndpoint operation registrationUri cause)
  | token {url : Url} (given : ∃ c ∈ registrationUri.toList, isBlank c = false)
      (parsed : Url.ofString registrationUri = .ok url)
      (illegal : ∃ c ∈ token.toList, IsControl c) :
      FailsOn operation registrationUri token (.invalidToken operation)

/-- **An operation ends at once** with the error of a check that fails; if none does, it asks
something. -/
def EndsAtOnce (d : Operating S α) (fails : RegistrationError → Prop) : Prop :=
  ∀ result, d = .done result ↔ ∃ e, result = .error e ∧ fails e

theorem EndsAtOnce.asksNothing_iff {d : Operating S α} {fails : RegistrationError → Prop}
    (h : EndsAtOnce d fails) : d.AsksNothing ↔ ∃ e, fails e := by
  constructor
  · rintro ⟨result, hd⟩
    obtain ⟨e, -, he⟩ := (h result).mp hd
    exact ⟨e, he⟩
  · rintro ⟨e, he⟩
    exact ⟨_, (h (.error e)).mpr ⟨e, rfl, he⟩⟩

theorem endsAtOnce_error {fails : RegistrationError → Prop} (he : fails e)
    (only : ∀ e', fails e' → e' = e) : EndsAtOnce (.done (.error e) : Operating S α) fails := by
  intro result
  constructor
  · rintro ⟨⟩
    exact ⟨e, rfl, he⟩
  · rintro ⟨e', rfl, he'⟩
    rw [only e' he']

theorem endsAtOnce_ask {fails : RegistrationError → Prop} (none_fails : ∀ e, ¬ fails e)
    (q : Question S) (next : Answer q → Operating S α) : EndsAtOnce (.ask q next) fails := by
  intro result
  constructor
  · nofun
  · rintro ⟨e, -, he⟩
    exact absurd he (none_fails e)

/-- **The checks of an operation on a registration**: it has a request where none fails, and is
refused with the error of the only one that does. -/
theorem registrationRequest_checks (operation : Operation) (registrationUri token : String)
    (document : Option Json) :
    (∃ request, registrationRequest operation registrationUri token document = .ok request ∧
        ∀ e, ¬ FailsOn operation registrationUri token e) ∨
      ∃ e, registrationRequest operation registrationUri token document = .error e ∧
        FailsOn operation registrationUri token e ∧
          ∀ e', FailsOn operation registrationUri token e' → e' = e := by
  have given_iff : (∃ c ∈ registrationUri.toList, isBlank c = false) ↔
      isAllBlank registrationUri.toList = false := by
    simp [isAllBlank]
  have blank_iff : (∀ c ∈ registrationUri.toList, isBlank c = true) ↔
      isAllBlank registrationUri.toList = true := List.all_eq_true.symm
  unfold registrationRequest registrationUrl parseEndpoint
  -- a check presupposes those before it, so that no two of them fail together
  cases blank : isAllBlank registrationUri.toList with
  | true =>
    refine .inr ⟨_, rfl, .blank (blank_iff.mpr blank), ?_⟩
    intro e' fails
    cases fails with
    | blank => rfl
    | uri given | token given => cases blank.symm.trans (given_iff.mp given)
  | false =>
    have given := given_iff.mpr blank
    cases parsed : Url.ofString registrationUri with
    | error cause =>
      refine .inr ⟨_, rfl, .uri given parsed, ?_⟩
      intro e' fails
      cases fails with
      | blank all => cases blank.symm.trans (blank_iff.mp all)
      | uri _ parsed' =>
        obtain rfl := Except.error.inj (parsed.symm.trans parsed')
        rfl
      | token _ parsed' => cases parsed.symm.trans parsed'
    | ok url =>
      by_cases legal : (bearer? token).isSome
      · obtain ⟨request, built, -⟩ := exists_buildRequest operation url legal document
        refine .inl ⟨request, built, ?_⟩
        intro e fails
        cases fails with
        | blank all => cases blank.symm.trans (blank_iff.mp all)
        | uri _ parsed' => cases parsed.symm.trans parsed'
        | token _ _ illegal =>
          rw [(bearer?_eq_none_iff token).mpr illegal] at legal
          cases legal
      · have illegal := (bearer?_eq_none_iff token).mp (Option.not_isSome_iff_eq_none.mp legal)
        refine .inr ⟨_, buildRequest_of_illegal legal document, .token given parsed illegal, ?_⟩
        intro e' fails
        cases fails with
        | blank all => cases blank.symm.trans (blank_iff.mp all)
        | uri _ parsed' => cases parsed.symm.trans parsed'
        | token => rfl

theorem endsAtOnce_of_request {d : Operating S α} (document : Option Json)
    (refused : ∀ e, registrationRequest operation registrationUri token document = .error e →
      d = .done (.error e))
    (asks : ∀ request, registrationRequest operation registrationUri token document = .ok request →
      ∃ q next, d = .ask q next) :
    EndsAtOnce d (FailsOn operation registrationUri token) := by
  rcases registrationRequest_checks operation registrationUri token document with
    ⟨request, built, none_fails⟩ | ⟨e, failed, fails, only⟩
  · obtain ⟨q, next, rfl⟩ := asks request built
    exact endsAtOnce_ask none_fails q next
  · rw [refused e failed]
    exact endsAtOnce_error fails only

theorem register_endsAtOnce (source : Option S) (context : Context) (endpoint : String)
    (metadata : ClientMetadata) :
    EndsAtOnce (register source context endpoint metadata) (FailsToRegister source endpoint) := by
  unfold register parseEndpoint
  cases source with
  | none =>
    refine endsAtOnce_error (.source rfl) ?_
    rintro e' (_ | ⟨⟨⟩, _⟩)
    rfl
  | some giver =>
    cases parsed : Url.ofString endpoint with
    | error cause =>
      refine endsAtOnce_error (.endpoint rfl parsed) ?_
      rintro e' (⟨⟨⟩⟩ | ⟨-, parsed'⟩)
      obtain rfl := Except.error.inj (parsed.symm.trans parsed')
      rfl
    | ok url =>
      refine endsAtOnce_ask ?_ _ _
      rintro e (⟨⟨⟩⟩ | ⟨-, parsed'⟩)
      cases parsed.symm.trans parsed'

section Operations

variable (context : Context) (clientId registrationUri token : String)

theorem read_endsAtOnce :
    EndsAtOnce (S := S) (Registration.read context clientId registrationUri token)
      (FailsOn .read registrationUri token) := by
  refine endsAtOnce_of_request none (fun e refused => ?_) (fun request built => ?_)
  · rw [Registration.read, refused]
  · rw [Registration.read, built]
    exact ⟨_, _, rfl⟩

theorem update_endsAtOnce (metadata : ClientMetadata) :
    EndsAtOnce (S := S) (update context clientId registrationUri token metadata)
      (FailsOn .update registrationUri token) := by
  refine endsAtOnce_of_request (some (metadata.updateDocument clientId)) (fun e refused => ?_)
    (fun request built => ?_)
  · rw [update, refused]
  · rw [update, built]
    exact ⟨_, _, rfl⟩

theorem delete_endsAtOnce :
    EndsAtOnce (S := S) (delete context clientId registrationUri token)
      (FailsOn .delete registrationUri token) := by
  refine endsAtOnce_of_request none (fun e refused => ?_) (fun request built => ?_)
  · rw [delete, refused]
  · rw [delete, built]
    exact ⟨_, _, rfl⟩

end Operations

/-- **Operations check first**: each of them asks nothing exactly where a check fails, and ends with
the error of the first one. -/
structure ChecksFirst (S : Type) : Prop where
  register : ∀ (source : Option S) context endpoint metadata,
    EndsAtOnce (register source context endpoint metadata) (FailsToRegister source endpoint)
  read : ∀ context clientId registrationUri token,
    EndsAtOnce (S := S) (read context clientId registrationUri token)
      (FailsOn .read registrationUri token)
  update : ∀ context clientId registrationUri token metadata,
    EndsAtOnce (S := S) (update context clientId registrationUri token metadata)
      (FailsOn .update registrationUri token)
  delete : ∀ context clientId registrationUri token,
    EndsAtOnce (S := S) (delete context clientId registrationUri token)
      (FailsOn .delete registrationUri token)

/-- **Every operation checks first.** -/
theorem checksFirst (S : Type) : ChecksFirst S :=
  ⟨register_endsAtOnce, read_endsAtOnce, update_endsAtOnce, delete_endsAtOnce⟩

end Registration

/-! ### With the provider -/

namespace Provider

open Admin Registration

variable {α : Type} {refresher : Option AdminClient}

/-- **What asks nothing leaves the world as it is**, with the same result in every world. -/
theorem World.runs_of_asksNothing {d : Dialog Admin.Answer α} (h : d.AsksNothing) :
    ∃ result, ∀ w : World, w.Runs d [] result w := by
  obtain ⟨result, rfl⟩ := h
  exact ⟨result, World.runs_done result⟩

theorem not_asksNothing_registrationAnswer (q : Registration.Question AdminClient) :
    ¬ (registrationAnswer refresher q).AsksNothing := by
  cases q with
  | initialToken source context => exact Dialog.not_asksNothing_ask _ _
  | execute context request =>
    show ¬ ((Renewal.execute refresher context request).through renewalAnswer).AsksNothing
    unfold Renewal.execute
    split <;> exact Dialog.not_asksNothing_ask _ _

theorem asksNothing_registering_iff {d : Registration.Operating AdminClient α} :
    (registering refresher d).AsksNothing ↔ d.AsksNothing :=
  Dialog.asksNothing_through_iff not_asksNothing_registrationAnswer

end Provider

end RealmKeeper
