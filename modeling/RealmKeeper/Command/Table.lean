import RealmKeeper.Client.Information
import RealmKeeper.Instant
import RealmKeeper.Json.Text

/-!
# Clients as tables

* `clientRows`: the rows about a client, its registration first, then its metadata by name;
* `tableText`: rows as lines, with the values below each other.
-/

namespace RealmKeeper.Command

open RealmKeeper.Client RealmKeeper.Json

/-- What is shown in the place of a secret. -/
def mask : String := "********"

/-- A secret, or what is shown in its place. -/
def reveal (showSecrets : Bool) (secret : String) : String :=
  if showSecrets then secret else mask

/-- A point in time, in seconds since the epoch; one that no calendar covers stands as a number. -/
def timestamp (seconds : Int64) : String :=
  match Instant.ofSeconds? seconds.toInt with
  | some t => t.text
  | none => String.ofList (intChars seconds.toInt)

/-- When a secret expires. -/
def expiryText (seconds : Int64) : String :=
  if seconds = 0 then "never" else timestamp seconds

/-- An item of a list as it is shown. -/
def itemText : Json → String
  | .string s => s
  | v => compact v

/-- A value as it is shown: texts without quotes, lists with commas. -/
def valueText : Json → String
  | .string s => s
  | .array items => ", ".intercalate (items.map itemText)
  | v => compact v

/-- A row that is left out when there is no value. -/
def row? (key : String) (value : Option String) : List (String × String) :=
  match value with
  | some v => [(key, v)]
  | none => []

/-- A text, unless it is empty. -/
def nonEmpty? (text : String) : Option String :=
  if text.isEmpty then none else some text

/-- The rows about the registration of a client. -/
def registrationRows (showSecrets : Bool) (i : ClientInformation) : List (String × String) :=
  [("client_id", i.clientId)] ++
  row? "client_secret" (i.clientSecret.map (reveal showSecrets)) ++
  row? "issued_at" (if i.issuedAt = 0 then none else some (timestamp i.issuedAt)) ++
  row? "secret_expires_at" (i.clientSecret.map fun _ => expiryText i.secretExpiresAt) ++
  row? "registration_client_uri" (nonEmpty? i.registrationUri) ++
  row? "registration_access_token" ((nonEmpty? i.registrationToken).map (reveal showSecrets))

/-- The rows about the metadata of a client, by name. -/
def metadataRows (m : ClientMetadata) : List (String × String) :=
  m.toDict.members.map fun (name, value) => (name, valueText value)

/-- **The rows about a client.** -/
def clientRows (showSecrets : Bool) (i : ClientInformation) : List (String × String) :=
  registrationRows showSecrets i ++ metadataRows i.metadata

/-- The width of the keys, in octets. -/
def keyWidth (rows : List (String × String)) : Nat :=
  (rows.map fun r => (Text.Utf8.bytes r.1).length).foldl max 0

/-- A row as a line; its key is filled up with spaces. -/
def rowLine (width : Nat) (row : String × String) : String :=
  String.ofList (row.1.toList ++ List.replicate (width - row.1.length) ' ' ++ ' ' :: ' ' ::
    row.2.toList ++ ['\n'])

/-- **Rows as lines.** -/
def tableText (rows : List (String × String)) : String :=
  String.join (rows.map (rowLine (keyWidth rows)))

end RealmKeeper.Command
