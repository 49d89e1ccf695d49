import RealmKeeper.Text.Utf8

/-!
# Certificate files

Files with certificates in textual encoding: sections between a `BEGIN` and an `END` line, whose
lines are base 64.

* `certificatesIn`: the certificates of a file; other sections are passed over;
* `hasCertificateForm`: the outer form of a certificate.
-/

namespace RealmKeeper.Server

open RealmKeeper.Text

/-! ### Base 64 -/

/-- The value of a digit in base 64. -/
def base64Digit? (b : UInt8) : Option Nat :=
  if 0x41 ≤ b && b ≤ 0x5A then some (b.toNat - 0x41)
  else if 0x61 ≤ b && b ≤ 0x7A then some (b.toNat - 0x47)
  else if 0x30 ≤ b && b ≤ 0x39 then some (b.toNat + 4)
  else if b = 0x2B then some 62
  else if b = 0x2F then some 63
  else none

/-- The octets of groups of four digits; the last group may be filled up with equals signs. -/
def base64Groups : List UInt8 → Option (List UInt8)
  | [] => some []
  | [a, b, 0x3D, 0x3D] =>
    match base64Digit? a, base64Digit? b with
    | some a, some b => some [(4 * a + b / 16).toUInt8]
    | _, _ => none
  | [a, b, c, 0x3D] =>
    match base64Digit? a, base64Digit? b, base64Digit? c with
    | some a, some b, some c => some [(4 * a + b / 16).toUInt8, (b % 16 * 16 + c / 4).toUInt8]
    | _, _, _ => none
  | a :: b :: c :: d :: rest =>
    match base64Digit? a, base64Digit? b, base64Digit? c, base64Digit? d with
    | some a, some b, some c, some d =>
      (base64Groups rest).map fun octets =>
        (4 * a + b / 16).toUInt8 :: (b % 16 * 16 + c / 4).toUInt8 :: (c % 4 * 64 + d).toUInt8 ::
          octets
    | _, _, _, _ => none
  | _ => none

/-- An octet that base 64 passes over. -/
def isBase64Space (b : UInt8) : Bool :=
  b == 0x20 || b == 0x09 || b == 0x0A || b == 0x0D

/-- Reads base 64. -/
def decodeBase64 (bs : List UInt8) : Option (List UInt8) :=
  base64Groups (bs.filter fun b => !isBase64Space b)

/-! ### Sections -/

/-- The lines of a file; each carriage return and each line feed ends one. -/
def linesOf : List UInt8 → List (List UInt8)
  | [] => []
  | b :: rest =>
    if b = 0x0A ∨ b = 0x0D then [] :: linesOf rest
    else
      match linesOf rest with
      | [] => [[b]]
      | line :: lines => (b :: line) :: lines

/-- What begins the first line of a section. -/
def beginMark : List UInt8 := Utf8.bytes "-----BEGIN "

/-- The label in the first line of a section, behind its mark; five dashes must follow it. -/
def labelOf (line : List UInt8) : Option (List UInt8) :=
  let ending := (line.reverse.takeWhile fun b => b == 0x2D || b == 0x20).reverse
  if ending.count 0x2D = 5 then
    some ((line.take (line.length - (ending.dropWhile (· != 0x2D)).length)).drop beginMark.length)
  else none

/-- The last line of a section. -/
def endMark (label : List UInt8) : List UInt8 :=
  Utf8.bytes "-----END " ++ label ++ Utf8.bytes "-----"

/-- The label of certificates. -/
def certificateLabel : List UInt8 := Utf8.bytes "CERTIFICATE"

/-- The labels of sections that must be well formed. -/
def knownLabels : List (List UInt8) :=
  certificateLabel :: ["PUBLIC KEY", "RSA PRIVATE KEY", "PRIVATE KEY", "EC PRIVATE KEY",
    "X509 CRL", "CERTIFICATE REQUEST", "ECHCONFIG"].map Utf8.bytes

/-- Reads lines, within the section with the given label after the given base 64 text. -/
def readSections : List (List UInt8) → Option (List UInt8) → List UInt8 → Option (List (List UInt8))
  | [], none, _ => some []
  | [], some _, _ => none
  | line :: rest, section?, text =>
    if beginMark.isPrefixOf line then
      (labelOf line).bind fun label => readSections rest (some label) text
    else
      match section? with
      | none => readSections rest none text
      | some label =>
        if (endMark label).isPrefixOf line then
          if knownLabels.contains label then
            (decodeBase64 text).bind fun octets =>
              (readSections rest none []).map fun others =>
                if label = certificateLabel then octets :: others else others
          else readSections rest none []
        else readSections rest (some label) (text ++ line)

/-- **The certificates in a file**; `none` if a section of it is ill formed. -/
def certificatesIn (file : List UInt8) : Option (List (List UInt8)) :=
  readSections (linesOf file) none []

/-! ### Certificates -/

/-- An element with its tag and content. -/
structure Element where
  tag : UInt8
  content : List UInt8

/-- The length at the beginning of octets, in its shortest form, and what follows it. -/
def readLength : List UInt8 → Option (Nat × List UInt8)
  | 0x81 :: a :: rest => if 0x80 ≤ a then some (a.toNat, rest) else none
  | 0x82 :: a :: b :: rest =>
    let n := 256 * a.toNat + b.toNat
    if 256 ≤ n then some (n, rest) else none
  | a :: rest => if a < 0x80 then some (a.toNat, rest) else none
  | [] => none

/-- The element at the beginning of octets, and what follows it. -/
def readElement : List UInt8 → Option (Element × List UInt8)
  | [] => none
  | tag :: rest =>
    (readLength rest).bind fun (n, rest) =>
      if n ≤ rest.length then some (⟨tag, rest.take n⟩, rest.drop n) else none

/-- The elements of octets; `none` if something else is among them. -/
def readElements : Nat → List UInt8 → Option (List Element)
  | _, [] => some []
  | 0, _ => none
  | fuel + 1, bs => (readElement bs).bind fun (e, rest) => (readElements fuel rest).map (e :: ·)

/-- **The outer form of a certificate**: one sequence of what is certified, the algorithm, and the
signature. -/
def hasCertificateForm (octets : List UInt8) : Bool :=
  match readElements octets.length octets with
  | some [⟨0x30, body⟩] =>
    match readElements body.length body with
    | some [⟨0x30, _⟩, ⟨0x30, _⟩, ⟨0x03, _⟩] => true
    | _ => false
  | _ => false

end RealmKeeper.Server
