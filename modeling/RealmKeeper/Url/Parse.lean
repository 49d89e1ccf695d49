import RealmKeeper.Url.Path

/-!
# Reading URLs

The text of a URL, read part by part. Texts that are no URL but can only mean one are read as that
one: spaces around it, tabs and line breaks in it, and backslashes for slashes where the scheme is
special.

* `Url.parse`: the URL of a text.
-/

namespace RealmKeeper.Url

/-- A control character or space, which vanish at both ends. -/
def isTrimmed (c : Char) : Bool :=
  c.toNat ≤ 0x20

/-- The text without what vanishes. -/
def cleaned (cs : List Char) : List Char :=
  (((cs.dropWhile isTrimmed).reverse.dropWhile isTrimmed).reverse).filter fun c => !isVanishing c

/-- A character of a scheme after the first. -/
def isSchemeChar (c : Char) : Bool :=
  c.isAlphanum || c == '+' || c == '-' || c == '.'

/-- The scheme, in small letters, and what follows its colon. -/
def splitScheme? (cs : List Char) : Option (List Char × List Char) :=
  match cs with
  | [] => none
  | first :: _ =>
    match first.isAlpha, cs.dropWhile isSchemeChar with
    | true, ':' :: rest => some ((cs.takeWhile isSchemeChar).map Char.toLower, rest)
    | _, _ => none

/-- A slash, or a backslash where it means one. -/
def isSlash (special : Bool) (c : Char) : Bool :=
  c == '/' || (special && c == '\\')

/-- The end of the part that names user and host. -/
def endsAuthority (special : Bool) (c : Char) : Bool :=
  isSlash special c || c == '?' || c == '#'

/-! ### Query and fragment -/

/-- The parts before and after the first character with a property; the second begins with it. -/
def breakAt (p : Char → Bool) (cs : List Char) : List Char × List Char :=
  (cs.takeWhile fun c => !p c, cs.dropWhile fun c => !p c)

/-- Query and fragment of the text behind a path. -/
def suffix (special : Bool) (cs : List Char) : Option (List Char) × Option (List Char) :=
  match cs with
  | '#' :: rest => (none, some (escape inFragmentSet rest))
  | '?' :: rest =>
    let (query, rest) := breakAt (· == '#') rest
    (some (escape (if special then inSpecialQuerySet else inQuerySet) query),
      rest.head?.map fun _ => escape inFragmentSet (rest.drop 1))
  | _ => (none, none)

/-- The end of a path. -/
def endsPath (c : Char) : Bool :=
  c == '?' || c == '#'

/-! ### Path -/

/-- The parts of a text between slashes. -/
def slashParts (special : Bool) : List Char → List (List Char)
  | [] => [[]]
  | c :: rest =>
    if isSlash special c then [] :: slashParts special rest
    else
      match slashParts special rest with
      | [] => [[c]]
      | first :: others => (c :: first) :: others

/-- The segments of a path, of which the first slash is already read. -/
def segmentsOf (special file : Bool) (cs : List Char) : List (List Char) :=
  resolveSegments file ((slashParts special cs).map (escape inPathSet))

/-- The text without a slash at its beginning. -/
def dropSlash (special : Bool) (cs : List Char) : List Char :=
  match cs with
  | c :: rest => if isSlash special c then rest else cs
  | [] => []

/-- The segments of the path of a file, where empty ones at the beginning mean nothing. -/
def fileSegments (cs : List Char) : List (List Char) :=
  match (segmentsOf true true (dropSlash true cs)).dropWhile (·.isEmpty) with
  | [] => [[]]
  | segments => segments

/-- The segments of the path behind a host. Only URLs that are not special may have none. -/
def hostedSegments (special : Bool) (cs : List Char) : List (List Char) :=
  if cs.isEmpty && !special then [] else segmentsOf special false (dropSlash special cs)

/-! ### User and host -/

/-- User name and password, of the text before the last at sign. A password that would be empty is
none. -/
def userInfo (cs : List Char) : List Char × Option (List Char) :=
  let (name, rest) := breakAt (· == ':') cs
  (escape inUserInfoSet name,
    if rest.length ≤ 1 then none else some (escape inUserInfoSet (rest.drop 1)))

/-- The text before and after the last at sign. -/
def splitUser (cs : List Char) : Option (List Char × List Char) :=
  if cs.contains '@' then
    let host := (cs.reverse.takeWhile (· ≠ '@')).reverse
    some ((cs.take (cs.length - host.length)).dropLast, host)
  else none

/-- Host and port as they are written: a colon in brackets is part of the host. -/
def splitPort (inBrackets : Bool) : List Char → List Char × Option (List Char)
  | [] => ([], none)
  | c :: rest =>
    if c = ':' && !inBrackets then ([], some rest)
    else
      let within := if c = '[' then true else if c = ']' then false else inBrackets
      let (host, port) := splitPort within rest
      (c :: host, port)

/-- The port; an empty one and that of the scheme are none. -/
def parsePort (scheme : List Char) (cs : List Char) : Except UrlError (Option Nat) :=
  if cs.all Char.isDigit then
    let n := cs.foldl (fun n c => 10 * n + (c.toNat - 0x30)) 0
    if 65535 < n then .error .invalidPort
    else .ok (if cs.isEmpty ∨ defaultPort? scheme = some n then none else some n)
  else .error .invalidPort

/-- What stands between the two slashes and the path. -/
structure Authority where
  username : List Char
  password : Option (List Char)
  host : Host
  port : Option Nat
  /-- What already belongs to the path. -/
  rest : List Char

/-- Reads user, host and port. A backslash ends the port of any URL. `followed` tells that the URL
goes on behind. -/
def parseAuthority (scheme cs : List Char) (followed : Bool) : Except UrlError Authority :=
  let special := isSpecialScheme scheme
  let (user, rest) := match splitUser cs with
    | some (user, rest) => (some user, rest)
    | none => (none, cs)
  let (hostText, portText) := splitPort false rest
  let (portText, rest) := match portText with
    | some text => let (digits, rest) := breakAt (· == '\\') text; (some digits, rest)
    | none => (none, [])
  let (username, password) := userInfo (user.getD [])
  if hostText.isEmpty &&
      (special || portText.isSome || !username.isEmpty || password.isSome ||
        (user = some [] && followed)) then
    .error .emptyHost
  else
    (if special then Host.parse hostText else Host.parseOpaque hostText).bind fun host =>
      (parsePort scheme (portText.getD [])).map fun port => ⟨username, password, host, port, rest⟩

/-- A URL with a host. -/
def parseHosted (scheme cs : List Char) : Except UrlError Url :=
  let special := isSpecialScheme scheme
  let (authority, rest) := breakAt (endsAuthority special) cs
  (parseAuthority scheme authority (!rest.isEmpty)).map fun a =>
    let (path, rest) := breakAt endsPath (a.rest ++ rest)
    let (query, fragment) := suffix special rest
    { scheme, query, fragment
      username := a.username
      password := a.password
      host := some a.host
      port := a.port
      path := .segments (hostedSegments special path) }

/-- A URL without a host. -/
def hostless (scheme cs : List Char) : Url :=
  let (path, rest) := breakAt endsPath cs
  let (query, fragment) := suffix false rest
  { scheme, query, fragment
    username := []
    password := none
    host := none
    port := none
    path := match path with
      | '/' :: rest => .segments (segmentsOf false false rest)
      | text => .plain (escape isControl text) }

/-- The text is the letter of a drive, with either of its signs. -/
def isDriveText (cs : List Char) : Bool :=
  match cs with
  | [letter, sign] => letter.isAlpha && (sign == ':' || sign == '|')
  | _ => false

/-- The host of a file; that of this machine is left out. -/
def parseFileHost (cs : List Char) : Except UrlError Host :=
  if cs.isEmpty then .ok (.domain [])
  else
    (Host.parse cs).map fun host =>
      if host = .domain "localhost".toList then .domain [] else host

/-- The URL of a file. -/
def parseFile (cs : List Char) : Except UrlError Url :=
  let finish (host : Host) (rest : List Char) : Url :=
    let (path, rest) := breakAt endsPath rest
    let (query, fragment) := suffix true rest
    let segments := fileSegments path
    { scheme := "file".toList, query, fragment
      username := []
      password := none
      host := some (if (segments.head?.map isDrive).getD false then .domain [] else host)
      port := none
      path := .segments segments }
  match cs with
  | a :: b :: rest =>
    if isSlash true a && isSlash true b then
      let (hostText, path) := breakAt (endsAuthority true) rest
      if isDriveText hostText then .ok (finish (.domain []) rest)
      else (parseFileHost hostText).map fun host => finish host path
    else .ok (finish (.domain []) cs)
  | _ => .ok (finish (.domain []) cs)

/-- **The URL of a text.** -/
def parse (cs : List Char) : Except UrlError Url :=
  match splitScheme? (cleaned cs) with
  | none => .error .relativeWithoutBase
  | some (scheme, rest) =>
    if isFileScheme scheme then parseFile rest
    else if isSpecialScheme scheme then parseHosted scheme (rest.dropWhile (isSlash true))
    else
      match rest with
      | '/' :: '/' :: rest => parseHosted scheme rest
      | rest => .ok (hostless scheme rest)

/-- The URL of a string. -/
def ofString (s : String) : Except UrlError Url :=
  parse s.toList

end RealmKeeper.Url
