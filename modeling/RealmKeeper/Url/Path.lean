import RealmKeeper.Url.Basic
import RealmKeeper.Url.Form

/-!
# Paths

Segments of a path, as a URL is read and as segments are added to it.

* `resolveSegments`: segments with `.` and `..` worked off;
* `pushSegments`: a path with texts added to it as segments of their own;
* `Url.extendPath`: the same for the path of a URL.
-/

namespace RealmKeeper.Url

/-- The segment means the place itself. -/
def isSingleDot (segment : List Char) : Bool :=
  ["." , "%2e", "%2E"].contains (String.ofList segment)

/-- The segment means the place above. -/
def isDoubleDot (segment : List Char) : Bool :=
  ["..", "%2e%2e", "%2e%2E", "%2E%2e", "%2E%2E", "%2e.", "%2E.", ".%2e", ".%2E"].contains
    (String.ofList segment)

/-- The segment is the letter of a drive. -/
def isDrive (segment : List Char) : Bool :=
  match segment with
  | [letter, ':'] => letter.isAlpha
  | _ => false

/-- The path of the place above; the drive of a file is not left. -/
def shorten (file : Bool) (segments : List (List Char)) : List (List Char) :=
  match segments with
  | [only] => if file && isDrive only then segments else []
  | _ => segments.dropLast

/-- A drive letter is written with a colon. -/
def driveSegment (file : Bool) (before : List (List Char)) (segment : List Char) : List Char :=
  match segment with
  | [letter, '|'] => if file && before.isEmpty && letter.isAlpha then [letter, ':'] else segment
  | _ => segment

/-- Works off segments in order; a `.` or `..` at the end leaves an empty segment. -/
def resolveFrom (file : Bool) : List (List Char) → List (List Char) → List (List Char)
  | before, [] => before
  | before, [last] =>
    if isDoubleDot last then shorten file before ++ [[]]
    else if isSingleDot last then before ++ [[]]
    else before ++ [driveSegment file before last]
  | before, segment :: rest =>
    if isDoubleDot segment then resolveFrom file (shorten file before) rest
    else if isSingleDot segment then resolveFrom file before rest
    else resolveFrom file (before ++ [driveSegment file before segment]) rest

/-- **Segments with `.` and `..` worked off.** -/
def resolveSegments (file : Bool) (segments : List (List Char)) : List (List Char) :=
  resolveFrom file [] segments

/-! ### Adding segments -/

/-- The segments without an empty one at the end; a lone empty one stays. -/
def dropEmptyEnd (segments : List (List Char)) : List (List Char) :=
  match segments with
  | [] | [_] => segments
  | _ => if segments.getLast? = some [] then segments.dropLast else segments

/-- Tabs and line breaks, which vanish from the text of a URL. -/
def isVanishing (c : Char) : Bool :=
  c == '\t' || c == '\n' || c == '\r'

/-- The written form of a text as a segment. -/
def segmentText (special : Bool) (text : List Char) : List Char :=
  escape (if special then inSpecialSegmentSet else inSegmentSet)
    (text.filter fun c => !isVanishing c)

/-- Adds one text as a segment. The texts `.` and `..` add nothing; a lone empty segment gives way
to the new one. -/
def pushSegment (special : Bool) (segments : List (List Char)) (text : List Char) :
    List (List Char) :=
  if text = ['.'] ∨ text = ['.', '.'] then segments
  else
    let segment := segmentText special text
    if isDoubleDot segment then segments.dropLast ++ [[]]
    else
      let segment := if isSingleDot segment then [] else segment
      if segments = [[]] then [segment] else segments ++ [segment]

/-- **Adds texts as segments**, in the place of an empty segment at the end. -/
def pushSegments (special : Bool) (segments : List (List Char)) (texts : List (List Char)) :
    List (List Char) :=
  texts.foldl (pushSegment special) (dropEmptyEnd segments)

/-- **The URL with segments added to its path**; `none` if its path has no segments. -/
def extendPath (u : Url) (texts : List (List Char)) : Option Url :=
  match u.path with
  | .segments segments =>
    some { u with path := .segments (pushSegments u.isSpecial segments texts) }
  | .plain _ => none

theorem isSome_extendPath {u : Url} (h : u.isHierarchical = true) (texts : List (List Char)) :
    (u.extendPath texts).isSome = true := by
  unfold isHierarchical at h
  unfold extendPath
  split <;> simp_all

/-- The URL with one more pair in its query. -/
def addQueryPair (u : Url) (pair : List Char × List Char) : Url :=
  { u with query := some (appendPair (u.query.getD []) pair) }

end RealmKeeper.Url
