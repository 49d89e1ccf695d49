import RealmKeeper.Json.Decode
import RealmKeeper.Json.Encode

/-!
# Realm configurations

The resource that asks for a realm: its metadata, and the name of the realm it is about.

* `RealmConfig`, with `RealmConfig.read` and `RealmConfig.toJson`.
-/

namespace RealmKeeper.Admission

open RealmKeeper.Json

/-- What names the resource itself. -/
structure ObjectMeta where
  name : Option String
  «namespace» : Option String
deriving DecidableEq, Repr, Inhabited

/-- What the resource asks for. -/
structure RealmSpec where
  /-- Empty when not given. -/
  realmName : String
deriving DecidableEq, Repr, Inhabited

/-- **A resource that asks for a realm.** -/
structure RealmConfig where
  objectMeta : ObjectMeta
  spec : RealmSpec
deriving DecidableEq, Repr, Inhabited

/-- The configuration that says nothing. -/
def RealmConfig.blank : RealmConfig := ⟨⟨none, none⟩, ⟨""⟩⟩

/-- A configuration of which only the realm is named. -/
def RealmConfig.ofName (realmName : String) : RealmConfig := ⟨⟨none, none⟩, ⟨realmName⟩⟩

/-! ### Reading -/

section Reading

variable {φ : Type} [Medium φ]

/-- The members of the metadata, in order. -/
def ObjectMeta.shape : Shape φ ObjectMeta where
  name := "ObjectMeta"
  fields := [
    .of "name" false (readOption readString) fun v m => { m with name := v },
    .of "namespace" false (readOption readString) fun v m => { m with «namespace» := v }]

/-- Reads the metadata. -/
def ObjectMeta.read : ValueTree φ → Decoded ObjectMeta :=
  ObjectMeta.shape.read ⟨none, none⟩

/-- The members of the specification. -/
def RealmSpec.shape : Shape φ RealmSpec where
  name := "RealmConfigSpec"
  fields := [.of "realmName" false readString fun v s => { s with realmName := v }]

/-- Reads the specification. -/
def RealmSpec.read : ValueTree φ → Decoded RealmSpec :=
  RealmSpec.shape.read ⟨""⟩

/-- The members of a configuration, in order. -/
def RealmConfig.shape : Shape φ RealmConfig where
  name := "RealmConfig"
  fields := [
    .of "metadata" false ObjectMeta.read fun v c => { c with objectMeta := v },
    .of "spec" false RealmSpec.read fun v c => { c with spec := v }]

/-- **Reads a configuration.** -/
def RealmConfig.read : ValueTree φ → Decoded RealmConfig :=
  RealmConfig.shape.read .blank

end Reading

/-! ### Writing -/

/-- The metadata as it is written. -/
def ObjectMeta.toJson (m : ObjectMeta) : Json :=
  .object (textMember? "name" m.name ++ textMember? "namespace" m.namespace)

/-- The specification as it is written. -/
def RealmSpec.toJson (s : RealmSpec) : Json :=
  .object [("realmName", .string s.realmName)]

/-- **A configuration as it is written.** -/
def RealmConfig.toJson (c : RealmConfig) : Json :=
  .object [("metadata", c.objectMeta.toJson), ("spec", c.spec.toJson)]

end RealmKeeper.Admission
