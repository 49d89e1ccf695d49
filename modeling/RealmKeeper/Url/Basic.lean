import RealmKeeper.Url.Host

/-!
# URLs

* `Url`: a URL in its parts, each as it is written;
* `Url.chars`: the written form;
* `Url.isHierarchical`: the path is a list of segments.
-/

namespace RealmKeeper

namespace Url

/-- The path of a URL: a list of segments, or one text that is not looked into. -/
inductive Path where
  | segments (list : List (List Char))
  | plain (text : List Char)
deriving DecidableEq, Repr

end Url

/-- **A URL.** All parts are written as they stand in the URL, without the signs around them. -/
structure Url where
  scheme : List Char
  username : List Char
  password : Option (List Char)
  host : Option Url.Host
  port : Option Nat
  path : Url.Path
  query : Option (List Char)
  fragment : Option (List Char)
deriving DecidableEq, Repr

namespace Url

/-- The scheme is one of those whose hosts and paths are read more freely. -/
def isSpecialScheme (scheme : List Char) : Bool :=
  ["http", "https", "ws", "wss", "ftp", "file"].contains (String.ofList scheme)

/-- The scheme is that of local files. -/
def isFileScheme (scheme : List Char) : Bool :=
  String.ofList scheme == "file"

/-- The port that a scheme has when none is given. -/
def defaultPort? (scheme : List Char) : Option Nat :=
  match String.ofList scheme with
  | "http" | "ws" => some 80
  | "https" | "wss" => some 443
  | "ftp" => some 21
  | _ => none

/-- The URL can be requested over HTTP. -/
def isHttp (u : Url) : Bool :=
  let scheme := String.ofList u.scheme
  scheme == "http" || scheme == "https"

/-- The scheme of the URL is special. -/
def isSpecial (u : Url) : Bool :=
  isSpecialScheme u.scheme

/-- The path is a list of segments. -/
def isHierarchical (u : Url) : Bool :=
  match u.path with
  | .segments _ => true
  | .plain _ => false

/-! ### Writing -/

/-- User name and password with their signs. -/
def userInfoChars (u : Url) : List Char :=
  match u.password with
  | none => if u.username.isEmpty then [] else u.username ++ ['@']
  | some password => u.username ++ ':' :: password ++ ['@']

/-- The host with all that belongs to it. -/
def authorityChars (u : Url) : List Char :=
  match u.host with
  | none => []
  | some host =>
    '/' :: '/' :: u.userInfoChars ++ host.chars ++
      match u.port with
      | none => []
      | some port => ':' :: decimal port

/-- Segments, each after a slash. -/
def segmentChars (segments : List (List Char)) : List Char :=
  segments.flatMap ('/' :: ·)

/-- The path. Without a host it must not begin with two slashes, and is written with `/.` before
it if it would. -/
def pathChars (u : Url) : List Char :=
  match u.path with
  | .plain text => text
  | .segments segments =>
    let text := segmentChars segments
    if u.host.isNone && ['/', '/'].isPrefixOf text then '/' :: '.' :: text else text

/-- Query and fragment with their signs. -/
def suffixChars (u : Url) : List Char :=
  (match u.query with
    | none => []
    | some query => '?' :: query) ++
  match u.fragment with
  | none => []
  | some fragment => '#' :: fragment

/-- **The written form.** -/
def chars (u : Url) : List Char :=
  u.scheme ++ ':' :: u.authorityChars ++ u.pathChars ++ u.suffixChars

/-- The written form as a string. -/
def text (u : Url) : String :=
  String.ofList u.chars

end Url

end RealmKeeper
