import RealmKeeper.Command.Run
import RealmKeeper.Proofs.RegistrationRecords

/-!
# Masked tables

What the table of a client says about the secrets of the client when they are not shown.

* `ClientInformation.masked`: a client with a mask in the place of each secret that it has;
* `DifferInSecrets`: documents that are the same but for the texts of the two secrets;
* `ClientInformation.exists_masked_of_read`: such documents are read as clients that are the same
  but for the secrets;
* `masked_tables_agree`: such clients have the same table.
-/

namespace RealmKeeper.Client

open RealmKeeper.Json RealmKeeper.Command

variable {φ : Type} {name : String} {t t' : ValueTree φ}

/-! ### Documents that differ in secrets -/

/-- **The values of a member differ in a secret only**: a client secret stands for another one, and
a registration access token that is not empty for another one that is not empty. -/
inductive DifferInSecret (name : String) : ValueTree φ → ValueTree φ → Prop
  | same (t : ValueTree φ) : DifferInSecret name t t
  | secret (named : name = "client_secret") (s s' : String) :
      DifferInSecret name (.string s) (.string s')
  | token {s s' : String} (named : name = "registration_access_token") (filled : s ≠ "")
      (filled' : s' ≠ "") : DifferInSecret name (.string s) (.string s')

/-- **Documents that differ in secrets only**: their members stand in the same order, and each value
is the same or the text of a secret. -/
inductive DifferInSecrets : ValueTree φ → ValueTree φ → Prop
  | intro {members members' : List (String × ValueTree φ)}
      (alike : List.Forall₂ (fun m m' => m.1 = m'.1 ∧ DifferInSecret m.1 m.2 m'.2)
        members members') :
      DifferInSecrets (.object members) (.object members')

theorem DifferInSecret.eq_of_not_mem (h : DifferInSecret name t t')
    (other : name ∉ ClientInformation.layout.names) : t = t' := by
  cases h with
  | same t => rfl
  | secret named | token named =>
    subst named
    exact absurd (by decide) other

namespace ClientInformation

/-! ### Masked clients -/

/-- **A client with its secrets masked**; a secret that it does not have is not made up. -/
def masked (i : ClientInformation) : ClientInformation :=
  { i with
    clientSecret := i.clientSecret.map fun _ => mask
    registrationToken := if i.registrationToken = "" then "" else mask }

theorem masked_withToken (i : ClientInformation) {s s' : String} (filled : s ≠ "")
    (filled' : s' ≠ "") :
    ({ i with registrationToken := s } : ClientInformation).masked =
      ({ i with registrationToken := s' } : ClientInformation).masked := by
  simp [masked, filled, filled']

/-- Two clients that are being read are the same but for the secrets. -/
structure Draft.SameButSecrets (d d' : Draft) : Prop where
  information : d.information.masked = d'.information.masked
  others : d.others = d'.others

theorem Draft.SameButSecrets.put {d d' : Draft} (same : d.SameButSecrets d') {s : Slot Draft}
    (hs : s ∈ layout.slots) (a : s.Value) : (s.put a d).SameButSecrets (s.put a d') := by
  obtain ⟨information, others⟩ := same
  simp only [masked, ClientInformation.mk.injEq] at information
  simp only [layout, slots, List.mem_cons, List.not_mem_nil, or_false] at hs
  rcases hs with rfl | rfl | rfl | rfl | rfl | rfl <;>
    exact ⟨by simp [masked, information], others⟩

variable [Medium φ]

theorem exists_put_sameButSecrets {s : Slot Draft} (hs : s ∈ layout.slots) {d d' : Draft}
    (same : d.SameButSecrets d') (h : DifferInSecret s.name t t') {a : s.Value}
    (read : s.wire.read t = .ok a) :
    ∃ a', s.wire.read t' = .ok a' ∧ (s.put a d).SameButSecrets (s.put a' d') := by
  have put := same.put hs a
  cases h with
  | same t => exact ⟨a, read, put⟩
  | secret named text text' =>
    obtain rfl : s = layout.slots[1] := Layout.eq_of_name_eq hs (by simp [layout, slots]) named
    obtain rfl : some text = a := Except.ok.inj read
    exact ⟨some text', rfl, put.information, put.others⟩
  | @token text text' named filled filled' =>
    obtain rfl : s = layout.slots[4] := Layout.eq_of_name_eq hs (by simp [layout, slots]) named
    obtain rfl : text = a := Except.ok.inj read
    have mask := masked_withToken d'.information filled filled'
    exact ⟨text', rfl, put.information.trans mask, put.others⟩

/-- **Members are read in step**: the same names are seen, and the clients stay the same but for the
secrets. -/
theorem exists_readMembers_sameButSecrets {trees trees' : List (String × ValueTree φ)}
    (alike : List.Forall₂ (fun m m' => m.1 = m'.1 ∧ DifferInSecret m.1 m.2 m'.2) trees trees')
    {seen seen' : List String} {d d' r : Draft} (same : d.SameButSecrets d')
    (h : (layout.shape φ).readMembers layout.keepOther trees seen d = .ok (seen', r)) :
    ∃ r', (layout.shape φ).readMembers layout.keepOther trees' seen d' = .ok (seen', r') ∧
      r.SameButSecrets r' := by
  induction alike generalizing seen d d' with
  | nil =>
    cases h
    exact ⟨d', rfl, same⟩
  | @cons m m' trees trees' head _ ih =>
    obtain ⟨name, t⟩ := m
    obtain ⟨_, t'⟩ := m'
    obtain ⟨rfl, differ⟩ := head
    by_cases own : name ∈ layout.names
    · obtain ⟨s, hs, rfl⟩ := List.mem_map.mp own
      obtain ⟨fresh, a, read, rest⟩ := (Layout.readMembers_cons_slot hs).mp h
      obtain ⟨a', read', put⟩ := exists_put_sameButSecrets hs same differ read
      obtain ⟨r', rest', last⟩ := ih put rest
      exact ⟨r', (Layout.readMembers_cons_slot hs).mpr ⟨fresh, a', read', rest'⟩, last⟩
    · obtain rfl : t = t' := differ.eq_of_not_mem own
      obtain ⟨v, denotes, rest⟩ := (Layout.readMembers_cons_other own).mp h
      have kept : (layout.keep name v d).SameButSecrets (layout.keep name v d') :=
        ⟨same.information, congrArg ((name, v) :: ·) same.others⟩
      obtain ⟨r', rest', last⟩ := ih kept rest
      exact ⟨r', (Layout.readMembers_cons_other own).mpr ⟨v, denotes, rest'⟩, last⟩

/-- **Documents that differ in secrets only are read alike**: where one of them describes a client,
so does the other one, and the clients are the same but for the secrets. -/
theorem exists_masked_of_read (differ : DifferInSecrets t t') {i : ClientInformation}
    (h : read t = .ok i) : ∃ i', read t' = .ok i' ∧ i.masked = i'.masked := by
  obtain @⟨members, members', alike⟩ := differ
  obtain ⟨d, metadata, first, rest, rfl⟩ := read_eq_ok_iff.mp h
  obtain ⟨_, same, whole⟩ := Layout.read_eq_ok_iff.mp first
  obtain rfl := ValueTree.object.inj same
  obtain ⟨seen, inside, complete⟩ := Layout.ofMembers_eq_ok_iff.mp whole
  have blank : Draft.SameButSecrets layout.blank layout.blank := ⟨rfl, rfl⟩
  obtain ⟨d', inside', last⟩ := exists_readMembers_sameButSecrets alike blank inside
  have first' : layout.read (.object members') = .ok d' :=
    Layout.read_eq_ok_iff.mpr
      ⟨members', rfl, Layout.ofMembers_eq_ok_iff.mpr ⟨seen, inside', complete⟩⟩
  rw [last.others] at rest
  exact ⟨{ d'.information with metadata }, read_eq_ok_iff.mpr ⟨d', metadata, first', rest, rfl⟩,
    congrArg (fun i => { i with metadata }) last.information⟩

end ClientInformation

end RealmKeeper.Client

namespace RealmKeeper.Command

open RealmKeeper.Client RealmKeeper.Json

/-! ### Tables -/

/-- **The table that shows no secrets** is the table of the masked client. -/
theorem clientRows_masked (i : ClientInformation) :
    clientRows false i = clientRows true i.masked := by
  have secret : i.clientSecret.map (reveal false) = i.masked.clientSecret.map (reveal true) := by
    rw [ClientInformation.masked, Option.map_map]
    rfl
  have expiry : (i.clientSecret.map fun _ => expiryText i.secretExpiresAt) =
      i.masked.clientSecret.map fun _ => expiryText i.masked.secretExpiresAt := by
    rw [ClientInformation.masked, Option.map_map]
    rfl
  have token : (nonEmpty? i.registrationToken).map (reveal false) =
      (nonEmpty? i.masked.registrationToken).map (reveal true) := by
    by_cases h : i.registrationToken = "" <;>
      simp [ClientInformation.masked, nonEmpty?, reveal, mask, h]
  unfold clientRows registrationRows
  rw [secret, expiry, token]
  rfl

theorem read_of_readBytes {α : Type} {read : ValueTree Fault → Decoded α} {bs : List UInt8} {a : α}
    (h : readBytes read bs = .ok a) : read (Document.ofBytes bs).tree = .ok a := by
  simp only [readBytes] at h
  cases given : read (Document.ofBytes bs).tree with
  | error e =>
    rw [given] at h
    cases h
  | ok a' =>
    simp only [given] at h
    split at h
    · cases h
    · exact h

/-- **Masked tables do not depend on the secrets.** Where two documents that differ in the text of
the client secret and in that of the registration access token only describe clients, these have the
same rows and the same table when secrets are not shown: the one of the client with its secrets
masked. -/
theorem masked_tables_agree {bs bs' : List UInt8} {i i' : ClientInformation}
    (differ : DifferInSecrets (Document.ofBytes bs).tree (Document.ofBytes bs').tree)
    (described : readBytes ClientInformation.read bs = .ok i)
    (described' : readBytes ClientInformation.read bs' = .ok i') :
    clientRows false i = clientRows false i' ∧
      clientText .table false i = clientText .table false i' ∧
        clientRows false i = clientRows true i.masked ∧ i.masked = i'.masked := by
  have read := read_of_readBytes described
  obtain ⟨j, read', masked⟩ := ClientInformation.exists_masked_of_read differ read
  obtain rfl : i' = j := Except.ok.inj ((read_of_readBytes described').symm.trans read')
  have rows : clientRows false i = clientRows false i' := by
    rw [clientRows_masked, clientRows_masked, masked]
  exact ⟨rows, congrArg tableText rows, clientRows_masked i, masked⟩

/-- The document of a client with its secrets and a member of its own. -/
def documentWith (secret token : String) : ValueTree Fault := .object [
  ("client_id", .string "c"), ("client_secret", .string secret),
  ("registration_access_token", .string token), ("own", .array [.bool true])]

/-- A document as it is sent. -/
def firstBody : List UInt8 := Text.Utf8.bytes
  ("\x7b\"client_id\":\"c\",\"client_secret\":\"s\"," ++
    "\"registration_access_token\":\"t\",\"own\":[true]\x7d")

/-- The same document with secrets of other lengths. -/
def secondBody : List UInt8 := Text.Utf8.bytes
  ("\x7b\"client_id\":\"c\",\"client_secret\":\"\"," ++
    "\"registration_access_token\":\"new\",\"own\":[true]\x7d")

set_option maxRecDepth 8000 in
/-- Secrets of other lengths leave the rows and the table as they are. -/
theorem masked_tables_agree_bodies :
    ∃ i i', readBytes ClientInformation.read firstBody = .ok i ∧
      readBytes ClientInformation.read secondBody = .ok i' ∧
      clientRows true i ≠ clientRows true i' ∧ clientRows false i = clientRows false i' := by
  have first : Document.ofBytes firstBody = ⟨documentWith "s" "t", false⟩ := rfl
  have second : Document.ofBytes secondBody = ⟨documentWith "" "new", false⟩ := rfl
  have differ : DifferInSecrets (Document.ofBytes firstBody).tree
      (Document.ofBytes secondBody).tree := by
    rw [first, second]
    exact .intro (.cons ⟨rfl, .same _⟩ (.cons ⟨rfl, .secret rfl _ _⟩
      (.cons ⟨rfl, .token rfl (by decide) (by decide)⟩ (.cons ⟨rfl, .same _⟩ .nil))))
  have described : ∃ i, readBytes ClientInformation.read firstBody = .ok i ∧
      ("client_secret", "s") ∈ clientRows true i := by
    rw [readBytes, first]
    exact ⟨_, rfl, by decide⟩
  have described' : ∃ i, readBytes ClientInformation.read secondBody = .ok i ∧
      ("client_secret", "s") ∉ clientRows true i := by
    rw [readBytes, second]
    exact ⟨_, rfl, by decide⟩
  obtain ⟨i, hi, shown⟩ := described
  obtain ⟨i', hi', shown'⟩ := described'
  exact ⟨i, i', hi, hi', fun same => shown' (same ▸ shown), (masked_tables_agree differ hi hi').1⟩

end RealmKeeper.Command
