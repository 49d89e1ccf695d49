import RealmKeeper.Proofs.WrittenDocuments

/-!
# Names on the wire lose nothing

Every text is taken for a name, and is written again as it was.

* `Named.read_eq_ok_iff`: what is read as a value of a closed enumeration;
* `attempt`: such a value where there is one to be read, and else any text; `read_eq_attempt`: this
  is how open names are read;
* `ofName_eq_other_iff`: exactly the texts that name no value stand for themselves;
* `IsLossless`: what taking, reading and writing names promise each other;
* `wire_names_lossless`: they do so for each enumeration of client registration.
-/

namespace RealmKeeper.Json

theorem readVariantMember_eq_ok_iff {α : Type} {variants : List (String × α)} {name : String}
    {content : Json} {a : α} :
    readVariantMember variants name content = .ok a ↔
      content = .null ∧ variantOf variants name = .ok a := by
  unfold readVariantMember
  cases variantOf variants name with
  | error r => simp
  | ok b =>
    cases content with
    | unreadable f => cases f
    | _ => simp [readUnit, mismatch, refuse, within, Except.map]

end RealmKeeper.Json

namespace RealmKeeper.Client

open RealmKeeper.Json

variable {κ : Type} [Named κ] {k : κ} {text text' : String} {v : Json}

/-! ### Closed enumerations -/

theorem Named.variantOf_eq_ok_iff :
    variantOf ((Named.all (κ := κ)).map fun k => (Named.name k, k)) text = .ok k ↔
      text = Named.name k := by
  rw [variantOf, Named.lookup_eq_find?]
  constructor
  · intro h
    cases named : Named.find? κ text with
    | none => simp [named, refuse] at h
    | some k' =>
      rw [named] at h
      rw [← Except.ok.inj h, Named.name_of_find? named]
  · rintro rfl
    rw [Named.find?_name]

/-- **A value of a closed enumeration** is read from its name, alone or as the only member of an
object, without content. -/
theorem Named.read_eq_ok_iff :
    Named.read v = .ok k ↔
      v = .string (Named.name k) ∨ v = .object [(Named.name k, .null)] := by
  cases v with
  | string text =>
    refine Named.variantOf_eq_ok_iff.trans ?_
    simp
  | object members =>
    rcases members with _ | ⟨⟨text, content⟩, _ | ⟨second, rest⟩⟩
    · simp [Named.read, readVariant, Medium.streamed, refuse]
    · refine readVariantMember_eq_ok_iff.trans ?_
      simp [Named.variantOf_eq_ok_iff, and_comm]
    · simp [Named.read, readVariant, Medium.streamed, refuse]
  | unreadable f => cases f
  | _ => simp [Named.read, readVariant, Medium.streamed, mismatch, refuse]

theorem Named.find?_eq_none_of_refused (refused : ∀ k : κ, Named.read v ≠ .ok k)
    (spelled : v = .string text ∨ v = .object [(text, .null)]) : Named.find? κ text = none := by
  refine Option.eq_none_iff_forall_not_mem.mpr fun k named => refused k ?_
  rw [Named.read_eq_ok_iff, Named.name_of_find? named]
  exact spelled

/-! ### One reading after the other -/

namespace OpenName

/-- **One reading after the other**: a value of the enumeration where there is one to be read, and
else any text. -/
def attempt (v : Json) : Decoded (OpenName κ) :=
  match (Named.read v : Decoded κ), readString v with
  | .ok k, _ => .ok (.known k)
  | .error _, .ok name => .ok (.other name)
  | .error _, .error _ => refuse (.noVariant (Named.title κ))

theorem read_eq_attempt (v : Json) : (read v : Decoded (OpenName κ)) = attempt v := by
  have clean : v.isClean = true := (denotes_iff.mp (denotes_self v)).1
  cases closed : (Named.read v : Decoded κ) with
  | ok k =>
    have value : ofName (Named.name k) = OpenName.known k := by rw [ofName, Named.find?_name]
    rw [attempt, closed]
    rcases Named.read_eq_ok_iff.mp closed with rfl | rfl
    · simp [read, readOpenName, clean, value]
    · simp [read, readOpenName, clean, value, Named.find?_name]
  | error r =>
    have refused (k : κ) : Named.read v ≠ .ok k := by simp [closed]
    rw [attempt, closed]
    cases whole : readString v with
    | ok text =>
      obtain rfl := readString_eq_ok_iff.mp whole
      have unnamed := Named.find?_eq_none_of_refused refused (.inl rfl)
      simp [read, readOpenName, clean, ofName, unnamed]
    | error r' =>
      unfold read readOpenName
      rw [if_pos clean]
      split
      · cases whole
      · have unnamed := Named.find?_eq_none_of_refused refused (.inr rfl)
        simp [unnamed]
      · rfl

/-! ### Names that are taken from texts -/

/-- **Exactly the texts that name no value** stand for themselves. -/
theorem ofName_eq_other_iff {name : String} :
    ofName text = (.other name : OpenName κ) ↔
      name = text ∧ text ∉ (Named.all (κ := κ)).map Named.name := by
  have unnamed : Named.find? κ text = none ↔ text ∉ (Named.all (κ := κ)).map Named.name := by
    simp [Named.find?]
  rw [ofName, ← unnamed]
  cases Named.find? κ text with
  | none => simp [eq_comm]
  | some k => simp

example : (ofName "Implicit" : GrantType) = .other "Implicit" := by decide

theorem ofName_inj : (ofName text : OpenName κ) = ofName text' ↔ text = text' := by
  constructor
  · intro same
    rw [← name_ofName (κ := κ) text, same, name_ofName]
  · rintro rfl
    rfl

theorem isProper_iff {n : OpenName κ} : n.IsProper ↔ ofName n.name = n :=
  ⟨IsProper.ofName_name, fun own => own ▸ isProper_ofName n.name⟩

theorem readsAs (text : String) (φ : Type) [Medium φ] :
    ReadsAs (φ := φ) read (.string text) (ofName text : OpenName κ) := by
  intro t written
  rw [writes_string.mp written]
  rfl

/-- **No text is lost or confused with another** as a name of an enumeration with the given names
of its own. -/
structure IsLossless (κ : Type) [Named κ] (names : List String) : Prop where
  /-- What a text is taken for is written as the text. -/
  written : ∀ text : String, (ofName text : OpenName κ).toJson = .string text
  /-- It is what is read from the text, whatever the medium. -/
  read_tree : ∀ (text : String) (φ : Type) [Medium φ] (t : ValueTree φ), t.Denotes (.string text) →
    read t = .ok (ofName text : OpenName κ)
  /-- It is what is read from the written text. -/
  read_bytes : ∀ text : String,
    readBytes read (bytes (.string text)) = .ok (ofName text : OpenName κ)
  /-- A value of the enumeration is read wherever there is one, and any text else. -/
  read_eq : ∀ v : Json, (read v : Decoded (OpenName κ)) = attempt v
  /-- A text stands for itself exactly when it is none of the names. -/
  other_iff : ∀ text name : String,
    ofName text = (.other name : OpenName κ) ↔ name = text ∧ text ∉ names
  eq_iff : ∀ text text' : String, (ofName text : OpenName κ) = ofName text' ↔ text = text'
  /-- A name is written as a text, which is taken for it unless it has one of the names without
  being its value. -/
  own_iff : ∀ n : OpenName κ, n.toJson = .string n.name ∧
    (ofName n.name = n ↔ ∀ name ∈ names, n ≠ .other name)

theorem isLossless (κ : Type) [Named κ] :
    IsLossless κ ((Named.all (κ := κ)).map Named.name) where
  written text := by rw [toJson, name_ofName]
  read_tree text φ _ t denotes := readsAs text φ t (.inl denotes)
  read_bytes text := (isReadBack_of_readsAs (readsAs text)).text .string
  read_eq := read_eq_attempt
  other_iff text name := ofName_eq_other_iff
  eq_iff text text' := ofName_inj
  own_iff n := by
    refine ⟨rfl, isProper_iff.symm.trans ?_⟩
    simp [IsProper, Named.mem_all]

end OpenName

/-- **Names on the wire lose nothing**: for grant types, response types and ways to authenticate,
whatever text is given. -/
theorem wire_names_lossless :
    OpenName.IsLossless KnownGrant
      ["authorization_code", "client_credentials", "refresh_token", "implicit", "password",
        "urn:ietf:params:oauth:grant-type:device_code"] ∧
    OpenName.IsLossless KnownResponse ["code", "token", "id_token"] ∧
    OpenName.IsLossless KnownAuthMethod
      ["client_secret_basic", "client_secret_post", "client_secret_jwt", "private_key_jwt",
        "tls_client_auth", "none"] :=
  ⟨OpenName.isLossless KnownGrant, OpenName.isLossless KnownResponse,
    OpenName.isLossless KnownAuthMethod⟩

end RealmKeeper.Client
