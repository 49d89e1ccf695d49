import RealmKeeper.Proofs.ExitCodes
import RealmKeeper.Proofs.FirstChecks

/-!
# Local failures

What is wrong with a command is reported without asking anything, if it can be seen before.

* `FailsLocally`: what can be wrong with a command before anything is asked;
* `asksNothing_perform_iff`: a command asks nothing exactly where it fails so;
* `failures_are_local`: the same of command lines, together with the operations.
-/

namespace RealmKeeper

namespace Command

open Text Http Admin Client Provider Json
open Registration hiding Question Answer Operating

variable {invocation : Invocation} {input : List UInt8} {admin : Option AdminClient} {α : Type}

/-- The client that a command is about. -/
def clientOf : Action → Option ClientArguments
  | .register _ _ => none
  | .get client | .update client _ | .delete client _ => some client

/-- What a command says about its client. -/
def descriptionOf : Action → Option MetadataArguments
  | .register _ arguments | .update _ arguments => some arguments
  | .get _ | .delete _ _ => none

/-- The first line of the input says yes. -/
def SaysYes (input : List UInt8) : Prop :=
  ∃ line, Utf8.decode (firstLine input) = some line ∧
    (trim line).map Char.toLower ∈ ["y".toList, "yes".toList]

/-- The text is that of a JSON object. -/
def IsObjectText (text : String) : Prop :=
  ∃ members, readBytes readJson (Utf8.bytes text) = .ok (.object members)

/-- **What can be wrong with a command** before anything is asked. -/
inductive FailsLocally (invocation : Invocation) (input : List UInt8) : Prop
  /-- There are administrative credentials, but no base URL to which paths can be added. -/
  | baseUrl {clientId clientSecret : String} (identifier : invocation.adminClientId = some clientId)
      (secret : invocation.adminClientSecret = some clientSecret)
      (unusable : ∀ url, Url.ofString invocation.baseUrl = .ok url → url.isHierarchical = false)
  /-- A client is to be registered, and there are no administrative credentials. -/
  | noCredentials {endpoint : Option String} {arguments : MetadataArguments}
      (action : invocation.action = .register endpoint arguments)
      (missing : invocation.adminClientId = none ∨ invocation.adminClientSecret = none)
  /-- The endpoint that is given is no URL. -/
  | endpoint {endpoint : String} {arguments : MetadataArguments} {cause : Url.UrlError}
      (action : invocation.action = .register (some endpoint) arguments)
      (unparsable : Url.ofString endpoint = .error cause)
  /-- No endpoint is given, and the one of the administrative client is no URL. -/
  | ownEndpoint {arguments : MetadataArguments} {c : AdminClient} {cause : Url.UrlError}
      (action : invocation.action = .register none arguments)
      (authorised : adminOf invocation = .ok (some c))
      (unparsable : Url.ofString c.registrationEndpoint.text = .error cause)
  /-- The further members are not those of a JSON object. -/
  | metadata {arguments : MetadataArguments} {text : String}
      (described : descriptionOf invocation.action = some arguments)
      (given : arguments.further = some text) (unreadable : ¬ IsObjectText text)
  /-- The registration or its token cannot be used. -/
  | client {client : ClientArguments} {e : RegistrationError}
      (named : clientOf invocation.action = some client)
      (fails : FailsOn (operationOf invocation.action) client.registrationUri
        client.registrationToken e)
  /-- A deletion is confirmed neither on the command line nor in the input. -/
  | unconfirmed {client : ClientArguments} (action : invocation.action = .delete client false)
      (declined : ¬ SaysYes input)

/-- **Only an answer that says yes confirms.** -/
theorem confirmation_eq_ok_true_iff : confirmation input = .ok true ↔ SaysYes input := by
  unfold confirmation SaysYes
  cases Utf8.decode (firstLine input) with
  | none => simp
  | some line =>
    have spells : ∀ text : String, String.ofList ((trim line).map Char.toLower) = text ↔
        (trim line).map Char.toLower = text.toList := by
      intro text
      constructor
      · rintro rfl
        exact String.toList_ofList.symm
      · intro same
        rw [same, String.ofList_toList]
    simp [confirms, spells]

theorem metadataOf_cases (arguments : MetadataArguments) :
    ((∃ metadata, metadataOf arguments = .ok metadata) ∧
        ∀ text, arguments.further = some text → IsObjectText text) ∨
      (∃ r, metadataOf arguments = .error r) ∧
        ∃ text, arguments.further = some text ∧ ¬ IsObjectText text := by
  unfold metadataOf
  cases given : arguments.further with
  | none => exact .inl ⟨⟨_, rfl⟩, nofun⟩
  | some text =>
    unfold furtherMembers IsObjectText
    cases parsed : readBytes readJson (Utf8.bytes text) with
    | error refusal =>
      simp only [parsed]
      exact .inr ⟨⟨_, rfl⟩, text, rfl, by simp [parsed]⟩
    | ok v =>
      cases v with
      | object members =>
        simp only [parsed]
        refine .inl ⟨⟨_, rfl⟩, ?_⟩
        rintro _ ⟨⟩
        exact ⟨members, parsed⟩
      | _ =>
        simp only [parsed]
        exact .inr ⟨⟨_, rfl⟩, text, rfl, by simp [parsed]⟩

theorem adminOf_cases (invocation : Invocation) :
    (∃ r, adminOf invocation = .error r ∧ ∃ clientId clientSecret,
        invocation.adminClientId = some clientId ∧
          invocation.adminClientSecret = some clientSecret ∧
            ∀ url, Url.ofString invocation.baseUrl = .ok url → url.isHierarchical = false) ∨
      (adminOf invocation = .ok none ∧
        (invocation.adminClientId = none ∨ invocation.adminClientSecret = none)) ∨
      ∃ c, adminOf invocation = .ok (some c) ∧ invocation.adminClientId ≠ none ∧
        invocation.adminClientSecret ≠ none ∧
          ∃ url, Url.ofString invocation.baseUrl = .ok url ∧ url.isHierarchical = true := by
  unfold adminOf
  cases identifier : invocation.adminClientId with
  | none => exact .inr (.inl ⟨rfl, .inl rfl⟩)
  | some clientId =>
    cases secret : invocation.adminClientSecret with
    | none => exact .inr (.inl ⟨rfl, .inr rfl⟩)
    | some clientSecret =>
      have base : baseUrlOf invocation = (Url.ofString invocation.baseUrl).mapError _ := rfl
      dsimp only
      rw [base]
      cases parsed : Url.ofString invocation.baseUrl with
      | error cause => exact .inl ⟨_, rfl, _, _, rfl, rfl, nofun⟩
      | ok url =>
        simp only [Except.mapError, Except.bind]
        unfold AdminClient.ofUrl
        by_cases hierarchical : url.isHierarchical = true
        · rw [dif_pos hierarchical]
          exact .inr (.inr ⟨_, rfl, nofun, nofun, url, rfl, hierarchical⟩)
        · rw [dif_neg hierarchical]
          refine .inl ⟨_, rfl, _, _, rfl, rfl, ?_⟩
          rintro _ ⟨⟩
          exact Bool.eq_false_iff.mpr hierarchical

theorem asksNothing_operate_iff {d : Registration.Operating AdminClient α} {prompt context : String}
    {print : α → String} :
    (operate admin d prompt context print).AsksNothing ↔ d.AsksNothing :=
  Dialog.asksNothing_bind_done_iff.trans asksNothing_registering_iff

section Actions

variable {endpoint : Option String} {arguments : MetadataArguments} {client : ClientArguments}
  {flagged : Bool}

theorem asksNothing_register_iff (action : invocation.action = .register endpoint arguments) :
    (performAction invocation input admin).AsksNothing ↔
      (∃ r, endpointOf endpoint admin = .error r) ∨ (∃ r, metadataOf arguments = .error r) ∨
        ∃ place e, endpointOf endpoint admin = .ok place ∧ FailsToRegister admin place e := by
  simp only [performAction, action]
  cases placed : endpointOf endpoint admin with
  | error r => exact iff_of_true (Dialog.asksNothing_done _) (.inl ⟨r, rfl⟩)
  | ok place =>
    cases described : metadataOf arguments with
    | error r => exact iff_of_true (Dialog.asksNothing_done _) (.inr (.inl ⟨r, rfl⟩))
    | ok metadata =>
      rw [asksNothing_operate_iff, (register_endsAtOnce _ _ _ _).asksNothing_iff]
      simp

theorem asksNothing_get_iff (action : invocation.action = .get client) :
    (performAction invocation input admin).AsksNothing ↔
      ∃ e, FailsOn .read client.registrationUri client.registrationToken e := by
  simp only [performAction, action]
  rw [asksNothing_operate_iff, (read_endsAtOnce _ _ _ _).asksNothing_iff]

theorem asksNothing_update_iff (action : invocation.action = .update client arguments) :
    (performAction invocation input admin).AsksNothing ↔ (∃ r, metadataOf arguments = .error r) ∨
      ∃ e, FailsOn .update client.registrationUri client.registrationToken e := by
  simp only [performAction, action]
  cases described : metadataOf arguments with
  | error r => exact iff_of_true (Dialog.asksNothing_done _) (.inl ⟨r, rfl⟩)
  | ok metadata =>
    rw [asksNothing_operate_iff, (update_endsAtOnce _ _ _ _ _).asksNothing_iff]
    simp

theorem asksNothing_delete_iff (action : invocation.action = .delete client flagged) :
    (performAction invocation input admin).AsksNothing ↔ flagged = false ∧ ¬ SaysYes input ∨
      ∃ e, FailsOn .delete client.registrationUri client.registrationToken e := by
  simp only [performAction, action, ← confirmation_eq_ok_true_iff]
  cases flagged with
  | true =>
    rw [if_pos rfl]
    simp only
    rw [asksNothing_operate_iff, (delete_endsAtOnce _ _ _ _).asksNothing_iff]
    simp
  | false =>
    rw [if_neg (by decide)]
    cases confirmation input with
    | error r => exact iff_of_true (Dialog.asksNothing_done _) (.inl ⟨rfl, by simp⟩)
    | ok confirmed =>
      cases confirmed with
      | false => exact iff_of_true (Dialog.asksNothing_done _) (.inl ⟨rfl, by simp⟩)
      | true =>
        simp only
        rw [asksNothing_operate_iff, (delete_endsAtOnce _ _ _ _).asksNothing_iff]
        simp

end Actions

theorem failsLocally_of_asksNothing (authorised : adminOf invocation = .ok admin)
    (h : (performAction invocation input admin).AsksNothing) : FailsLocally invocation input := by
  have undescribed : ∀ arguments, descriptionOf invocation.action = some arguments →
      (∃ r, metadataOf arguments = .error r) → FailsLocally invocation input := by
    rintro arguments described ⟨r, refused⟩
    rcases metadataOf_cases arguments with ⟨⟨metadata, read⟩, -⟩ | ⟨-, text, given, unreadable⟩
    · cases read.symm.trans refused
    · exact .metadata described given unreadable
  cases action : invocation.action with
  | register endpoint arguments =>
    rcases adminOf_cases invocation with ⟨r, refused, -⟩ | ⟨-, missing⟩ | ⟨c, some, -⟩
    · cases refused.symm.trans authorised
    · exact .noCredentials action missing
    obtain rfl := Except.ok.inj (some.symm.trans authorised)
    rcases (asksNothing_register_iff action).mp h with
      ⟨r, unplaced⟩ | refused | ⟨place, e, placed, fails⟩
    · cases endpoint <;> cases unplaced
    · exact undescribed arguments (by rw [action]; rfl) refused
    · cases fails with
      | source missing => cases missing
      | endpoint _ unparsable =>
        cases endpoint with
        | some endpoint =>
          obtain rfl := Except.ok.inj placed
          exact .endpoint action unparsable
        | none =>
          obtain rfl := Except.ok.inj placed
          exact .ownEndpoint action authorised unparsable
  | get client =>
    obtain ⟨e, fails⟩ := (asksNothing_get_iff action).mp h
    exact .client (by rw [action]; rfl) (by rw [action]; exact fails)
  | update client arguments =>
    rcases (asksNothing_update_iff action).mp h with refused | ⟨e, fails⟩
    · exact undescribed arguments (by rw [action]; rfl) refused
    · exact .client (by rw [action]; rfl) (by rw [action]; exact fails)
  | delete client flagged =>
    rcases (asksNothing_delete_iff action).mp h with ⟨rfl, declined⟩ | ⟨e, fails⟩
    · exact .unconfirmed action declined
    · exact .client (by rw [action]; rfl) (by rw [action]; exact fails)

theorem FailsLocally.asksNothing (h : FailsLocally invocation input)
    (authorised : adminOf invocation = .ok admin) :
    (performAction invocation input admin).AsksNothing := by
  -- whichever check fails, it stands before the first question of its command
  cases h with
  | baseUrl identifier secret unusable =>
    rcases adminOf_cases invocation with
      ⟨r, refused, -⟩ | ⟨-, missing⟩ | ⟨c, -, -, -, url, parsed, hierarchical⟩
    · cases refused.symm.trans authorised
    · simp [identifier, secret] at missing
    · cases (unusable url parsed).symm.trans hierarchical
  | @noCredentials endpoint arguments action missing =>
    rcases adminOf_cases invocation with ⟨r, refused, -⟩ | ⟨nobody, -⟩ | ⟨c, -, given, given', -⟩
    · cases refused.symm.trans authorised
    · obtain rfl := Except.ok.inj (nobody.symm.trans authorised)
      refine (asksNothing_register_iff action).mpr ?_
      cases endpoint with
      | none => exact .inl ⟨_, rfl⟩
      | some place => exact .inr (.inr ⟨place, _, rfl, .source rfl⟩)
    · exact absurd missing (not_or.mpr ⟨given, given'⟩)
  | @endpoint place _ _ action unparsable =>
    refine (asksNothing_register_iff action).mpr (.inr (.inr ⟨place, ?_⟩))
    cases admin with
    | none => exact ⟨_, rfl, .source rfl⟩
    | some c => exact ⟨_, rfl, .endpoint rfl unparsable⟩
  | ownEndpoint action authorised' unparsable =>
    obtain rfl := Except.ok.inj (authorised'.symm.trans authorised)
    exact (asksNothing_register_iff action).mpr
      (.inr (.inr ⟨_, _, rfl, .endpoint rfl unparsable⟩))
  | @metadata arguments text described given unreadable =>
    have refused : ∃ r, metadataOf arguments = .error r := by
      rcases metadataOf_cases arguments with ⟨-, readable⟩ | ⟨refused, -⟩
      · exact absurd (readable text given) unreadable
      · exact refused
    cases action : invocation.action with
    | register endpoint arguments' =>
      rw [action] at described
      obtain rfl := Option.some.inj described
      exact (asksNothing_register_iff action).mpr (.inr (.inl refused))
    | update client arguments' =>
      rw [action] at described
      obtain rfl := Option.some.inj described
      exact (asksNothing_update_iff action).mpr (.inl refused)
    | get client | delete client flagged =>
      rw [action] at described
      cases described
  | @client client e named fails =>
    cases action : invocation.action with
    | register endpoint arguments =>
      rw [action] at named
      cases named
    | get client' =>
      rw [action] at named fails
      obtain rfl := Option.some.inj named
      exact (asksNothing_get_iff action).mpr ⟨e, fails⟩
    | update client' arguments =>
      rw [action] at named fails
      obtain rfl := Option.some.inj named
      exact (asksNothing_update_iff action).mpr (.inr ⟨e, fails⟩)
    | delete client' flagged =>
      rw [action] at named fails
      obtain rfl := Option.some.inj named
      exact (asksNothing_delete_iff action).mpr (.inr ⟨e, fails⟩)
  | unconfirmed action declined => exact (asksNothing_delete_iff action).mpr (.inl ⟨rfl, declined⟩)

/-- **A command asks nothing** exactly where it fails locally. -/
theorem asksNothing_perform_iff :
    (perform invocation input).AsksNothing ↔ FailsLocally invocation input := by
  unfold perform
  cases authorised : adminOf invocation with
  | error r =>
    refine iff_of_true (Dialog.asksNothing_done _) ?_
    rcases adminOf_cases invocation with
      ⟨_, -, clientId, clientSecret, identifier, secret, unusable⟩ | ⟨nobody, -⟩ | ⟨c, some, -⟩
    · exact .baseUrl identifier secret unusable
    · cases nobody.symm.trans authorised
    · cases some.symm.trans authorised
  | ok admin =>
    exact ⟨failsLocally_of_asksNothing authorised, fun h => h.asksNothing authorised⟩

/-- **A command line asks nothing** where it is not accepted, or spells out a command that fails
locally. -/
theorem asksNothing_run_iff {environment : Environment} {words : List (List UInt8)} :
    (run environment words input).AsksNothing ↔
      ∀ invocation, Invocation.ofWords environment words = .ok invocation →
        FailsLocally invocation input := by
  unfold run
  cases accepted : Invocation.ofWords environment words with
  | error h =>
    refine iff_of_true (Dialog.asksNothing_done _) ?_
    intro invocation accepted'
    cases accepted'
  | ok invocation =>
    refine (Dialog.asksNothing_bind_done_iff.trans asksNothing_perform_iff).trans ?_
    constructor
    · rintro fails _ ⟨⟩
      exact fails
    · exact fun fails => fails invocation rfl

/-! ### The law -/

/-- **Local failures are local.** Operations check first, and a command line asks nothing exactly
where it is not accepted or its command fails locally. What asks nothing has no contact with the
provider; it has the same result in every world and leaves the world as it is. -/
theorem failures_are_local :
    (∀ S, ChecksFirst S) ∧
    (∀ environment words input, (run environment words input).AsksNothing ↔
      ∀ invocation, Invocation.ofWords environment words = .ok invocation →
        FailsLocally invocation input) ∧
    (∀ {α : Type} (refresher : Option AdminClient) (d : Registration.Operating AdminClient α)
      result, d = .done result → ∀ w : World, w.Runs (registering refresher d) [] result w) ∧
    ∀ {α : Type} (d : Dialog Admin.Answer α), d.AsksNothing →
      ∃ result, ∀ w : World, w.Runs d [] result w := by
  refine ⟨checksFirst, fun environment words input => asksNothing_run_iff, ?_,
    fun d h => World.runs_of_asksNothing h⟩
  rintro α refresher _ result rfl w
  exact World.runs_done result w

/-- A deletion that is not confirmed asks nothing, whatever surrounds it. -/
theorem failures_are_local_unconfirmed :
    FailsLocally deletion (Utf8.bytes "no\n") ∧ ∃ transcript, ∀ w : World,
      w.Runs (run (fun _ => none) deletionWords (Utf8.bytes "no\n")) [] transcript w := by
  have accepted : Invocation.ofWords (fun _ => none) deletionWords = .ok deletion := by
    decide +kernel
  have declined : ¬ SaysYes (Utf8.bytes "no\n") := by
    rw [← confirmation_eq_ok_true_iff]
    decide +kernel
  have fails : FailsLocally deletion (Utf8.bytes "no\n") := .unconfirmed rfl declined
  obtain ⟨-, command, -, quiet⟩ := failures_are_local
  refine ⟨fails, quiet _ ((command _ _ _).mpr ?_)⟩
  intro invocation accepted'
  obtain rfl := Except.ok.inj (accepted.symm.trans accepted')
  exact fails

end Command

end RealmKeeper
