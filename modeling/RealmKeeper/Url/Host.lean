import RealmKeeper.Number.Shortest
import RealmKeeper.Url.Domain

/-!
# Hosts

* `UrlError`: what can be wrong with the text of a URL;
* `Host`: domain names, addresses of both kinds, and names that are not looked into;
* `Host.parse`, `Host.parseOpaque`: hosts of special and of other URLs;
* `Host.chars`: how a host is written.
-/

namespace RealmKeeper.Url

/-- **What is wrong with the text of a URL.** -/
inductive UrlError where
  | relativeWithoutBase
  | emptyHost
  | invalidPort
  | invalidIpv4
  | invalidIpv6
  | invalidDomain
  /-- The host is none of the names that are answered for. -/
  | unlistedDomain
  | invalidHostCharacter
deriving DecidableEq, Repr

/-- The wording of an error. -/
def UrlError.message : UrlError → String
  | .relativeWithoutBase => "relative URL without a base"
  | .emptyHost => "empty host"
  | .invalidPort => "invalid port number"
  | .invalidIpv4 => "invalid IPv4 address"
  | .invalidIpv6 => "invalid IPv6 address"
  | .invalidDomain | .unlistedDomain => "invalid international domain name"
  | .invalidHostCharacter => "invalid domain character"

/-- **A host.** -/
inductive Host where
  | domain (name : List Char)
  | ipv4 (address : Nat)
  | ipv6 (pieces : List Nat)
  /-- The host of a URL whose scheme is not special. -/
  | verbatim (name : List Char)
deriving DecidableEq, Repr

/-! ### IPv4 addresses -/

/-- The number that digits of a base denote. -/
def ofBase? (base : Nat) (cs : List Char) : Option Nat :=
  cs.foldl (fun n c => n.bind fun n => (hexValue? c).bind fun d =>
    if d < base then some (n * base + d) else none) (some 0)

/-- A number of an address: hexadecimal after `0x`, octal after `0`, decimal otherwise. -/
def ipv4Number? : List Char → Option Nat
  | [] => none
  | ['0'] => some 0
  | '0' :: 'x' :: rest => ofBase? 16 rest
  | '0' :: 'X' :: rest => ofBase? 16 rest
  | '0' :: rest => ofBase? 8 rest
  | cs => ofBase? 10 cs

/-- The labels without an empty one at the end. -/
def dropEmptyLast (ls : List (List Char)) : List (List Char) :=
  if ls.getLast? = some [] then ls.dropLast else ls

/-- The last label is a number, so that the name must be an address. -/
def endsInNumber (name : List Char) : Bool :=
  match (dropEmptyLast (labels name)).getLast? with
  | none => false
  | some last => (!last.isEmpty && last.all Char.isDigit) || (ipv4Number? last).isSome

/-- The numbers of all labels. -/
def ipv4Numbers? : List (List Char) → Option (List Nat)
  | [] => some []
  | l :: rest => (ipv4Number? l).bind fun n => (ipv4Numbers? rest).map fun ns => n :: ns

/-- The address of up to four numbers; the last one fills the octets that are left. -/
def parseIpv4 (name : List Char) : Except UrlError Nat :=
  let parts := dropEmptyLast (labels name)
  match ipv4Numbers? parts with
  | none => .error .invalidIpv4
  | some numbers =>
    match numbers.getLast? with
    | none => .error .invalidIpv4
    | some last =>
      let leading := numbers.dropLast
      if 3 < leading.length ∨ leading.any (255 < ·) ∨ Nat.pow 256 (4 - leading.length) ≤ last then
        .error .invalidIpv4
      else
        .ok ((leading.foldl (fun n d => n * 256 + d) 0) * Nat.pow 256 (4 - leading.length) + last)

/-- The decimal text of a natural number. -/
def decimal (n : Nat) : List Char :=
  Number.digitChars n

/-- An address as four octets. -/
def ipv4Chars (n : Nat) : List Char :=
  decimal (n / 0x1000000 % 256) ++ '.' :: decimal (n / 0x10000 % 256) ++ '.' ::
    decimal (n / 0x100 % 256) ++ '.' :: decimal (n % 256)

/-! ### IPv6 addresses -/

/-- The parts of a text between colons. -/
def colonParts : List Char → List (List Char)
  | [] => [[]]
  | c :: rest =>
    if c = ':' then [] :: colonParts rest
    else
      match colonParts rest with
      | [] => [[c]]
      | first :: others => (c :: first) :: others

/-- The text before and after the first double colon. -/
def splitGap : List Char → Option (List Char × List Char)
  | ':' :: ':' :: rest => some ([], rest)
  | c :: rest => (splitGap rest).map fun (before, after) => (c :: before, after)
  | [] => none

/-- A piece of one to four hexadecimal digits. -/
def piece? (cs : List Char) : Option Nat :=
  if cs.isEmpty ∨ 4 < cs.length then none else ofBase? 16 cs

/-- An octet in decimal digits without leading zeros. -/
def octet? (cs : List Char) : Option Nat :=
  match cs with
  | [] => none
  | '0' :: _ :: _ => none
  | cs =>
    if 3 < cs.length then none
    else (ofBase? 10 cs).bind fun n => if n ≤ 255 then some n else none

/-- Two pieces written as four octets. -/
def quad? (cs : List Char) : Option (List Nat) :=
  match (labels cs).map octet? with
  | [some a, some b, some c, some d] => some [a * 256 + b, c * 256 + d]
  | _ => none

/-- The pieces between colons, of which the last may be written as octets where that is
allowed. -/
def pieces? (allowQuad : Bool) : List (List Char) → Option (List Nat)
  | [] => some []
  | [last] =>
    if allowQuad && last.contains '.' then quad? last else (piece? last).map fun n => [n]
  | part :: rest => (piece? part).bind fun n => (pieces? allowQuad rest).map fun ns => n :: ns

/-- The pieces on one side of the gap. -/
def sidePieces? (allowQuad : Bool) (cs : List Char) : Option (List Nat) :=
  if cs.isEmpty then some [] else pieces? allowQuad (colonParts cs)

/-- The eight pieces of an address; one double colon stands for a run of zeros. -/
def parseIpv6 (cs : List Char) : Except UrlError (List Nat) :=
  let pieces : Option (List Nat) :=
    match splitGap cs with
    | none => (sidePieces? true cs).bind fun ps => if ps.length = 8 then some ps else none
    | some (before, after) =>
      (sidePieces? false before).bind fun left => (sidePieces? true after).bind fun right =>
        if left.length + right.length ≤ 7 then
          some (left ++ List.replicate (8 - left.length - right.length) 0 ++ right)
        else none
  match pieces with
  | some ps => .ok ps
  | none => .error .invalidIpv6

/-- The length of the run of zeros at the beginning. -/
def zeroRun (ps : List Nat) : Nat :=
  (ps.takeWhile (· == 0)).length

/-- The position and length of the first longest run of zeros. -/
def longestRun (ps : List Nat) : Nat × Nat :=
  (List.range ps.length).foldl (fun best i =>
    if best.2 < zeroRun (ps.drop i) then (i, zeroRun (ps.drop i)) else best) (0, 0)

/-- The hexadecimal text of a piece. -/
def pieceChars (n : Nat) : List Char :=
  Nat.toDigits 16 n

/-- Pieces with colons between them. -/
def joinPieces (ps : List Nat) : List Char :=
  ((ps.map pieceChars).intersperse [':']).flatten

/-- An address in brackets; the longest run of at least two zeros is left out. -/
def ipv6Chars (ps : List Nat) : List Char :=
  let (start, length) := longestRun ps
  if length < 2 then '[' :: joinPieces ps ++ [']']
  else
    '[' :: joinPieces (ps.take start) ++
      ':' :: ':' :: joinPieces (ps.drop (start + length)) ++ [']']

/-! ### Hosts -/

namespace Host

/-- The text inside brackets, of a text that begins with one. -/
def bracketed (cs : List Char) : Except UrlError Host :=
  if cs.getLast? = some ']' then (parseIpv6 (cs.drop 1).dropLast).map .ipv6
  else .error .invalidIpv6

/-- **The host of a special URL.** -/
def parse (cs : List Char) : Except UrlError Host :=
  if cs.head? = some '[' then bracketed cs
  else
    match asciiForm cs with
    | .error .invalid => .error .invalidDomain
    | .error .unlisted => .error .unlistedDomain
    | .ok [] => .error .emptyHost
    | .ok name =>
      if endsInNumber name then (parseIpv4 name).map .ipv4 else .ok (.domain name)

/-- The characters that no host holds. -/
def isForbidden (c : Char) : Bool :=
  c.toNat = 0 ||
    ['\t', '\n', '\r', ' ', '#', '/', ':', '<', '>', '?', '@', '[', '\\', ']', '^', '|'].contains c

/-- **The host of a URL that is not special.** -/
def parseOpaque (cs : List Char) : Except UrlError Host :=
  if cs.head? = some '[' then bracketed cs
  else if cs.any isForbidden then .error .invalidHostCharacter
  else .ok (.verbatim (escape isControl cs))

/-- **How a host is written.** -/
def chars : Host → List Char
  | .domain name => name
  | .ipv4 n => ipv4Chars n
  | .ipv6 ps => ipv6Chars ps
  | .verbatim name => name

/-- The host has no character. -/
def isEmpty : Host → Bool
  | .domain name | .verbatim name => name.isEmpty
  | _ => false

end Host

end RealmKeeper.Url
