import RealmKeeper.Proofs.Escaping
import RealmKeeper.Url.Path

/-!
# Texts as segments of a path

What becomes of a text that is added to a path as a segment of its own.

* `visible`: what is written of a text at all;
* `segmentText_eq_iff`: two texts make the same segment exactly when the same is written of them;
* `pushSegment_of_proper`, `pushSegment_of_dot`, `pushSegment_of_dots`: a text makes one more
  segment unless `.` or `..` is what is written of it;
* `text_eq_iff_of_last`: URLs that differ in the last segment at most are written alike exactly when
  they do not.
-/

namespace RealmKeeper.Url

open RealmKeeper.Text

variable {special : Bool} {text other : List Char} {segments : List (List Char)}

/-- **What is written of a text**: tabs and line breaks are not. -/
def visible (text : List Char) : List Char :=
  text.filter fun c => !isVanishing c

/-! ### The written segment -/

theorem percent_mem (special : Bool) :
    (if special then inSpecialSegmentSet else inSegmentSet) '%' = true := by
  cases special <;> decide

theorem unescape_segmentText (special : Bool) (text : List Char) :
    unescape (segmentText special text) = Utf8.encode (visible text) :=
  unescape_escape (percent_mem special) _

/-- **Two texts make the same segment** exactly when the same is written of them. -/
theorem segmentText_eq_iff :
    segmentText special text = segmentText special other ↔ visible text = visible other := by
  constructor
  · exact escape_injective (percent_mem special)
  · intro h
    exact congrArg (escape _) h

theorem segmentText_ne_nil (h : visible text ≠ []) : segmentText special text ≠ [] := by
  intro hn
  have hu := unescape_segmentText special text
  rw [hn] at hu
  exact h (Utf8.encode_injective hu.symm)

/-- A segment is one of the spellings of a meaning exactly when the meaning is what is written of
its text: a spelling that is not the meaning itself has escapes where none are needed. -/
theorem contains_segmentText_iff {spellings : List String} {meaning : List Char}
    (spell : ∀ spelling ∈ spellings, unescape spelling.toList = Utf8.encode meaning)
    (own : String.ofList (segmentText special meaning) ∈ spellings)
    (whole : visible meaning = meaning) :
    spellings.contains (String.ofList (segmentText special text)) = true ↔
      visible text = meaning := by
  constructor
  · intro h
    have hs := spell _ (List.contains_iff_mem.mp h)
    rw [String.toList_ofList, unescape_segmentText] at hs
    exact Utf8.encode_injective hs
  · intro h
    rw [segmentText_eq_iff.mpr (h.trans whole.symm)]
    exact List.contains_iff_mem.mpr own

/-- **A segment means the place itself** exactly when a dot is what is written of its text. -/
theorem isSingleDot_segmentText_iff :
    isSingleDot (segmentText special text) = true ↔ visible text = ['.'] :=
  contains_segmentText_iff (by decide) (by cases special <;> decide) (by decide)

/-- **A segment means the place above** exactly when two dots are what is written of its text. -/
theorem isDoubleDot_segmentText_iff :
    isDoubleDot (segmentText special text) = true ↔ visible text = ['.', '.'] :=
  contains_segmentText_iff (by decide) (by cases special <;> decide) (by decide)

/-! ### Adding a text -/

/-- **A text makes a segment of its own**: it is none of the two that mean a place. -/
structure IsProper (text : List Char) : Prop where
  not_dot : visible text ≠ ['.']
  not_dots : visible text ≠ ['.', '.']

theorem pushSegment_eq_of_proper (h : IsProper text) :
    pushSegment special segments text =
      if segments = [[]] then [segmentText special text]
      else segments ++ [segmentText special text] := by
  have raw : ¬ (text = ['.'] ∨ text = ['.', '.']) := by
    rintro (rfl | rfl)
    · exact h.not_dot rfl
    · exact h.not_dots rfl
  have single : ¬ isSingleDot (segmentText special text) = true :=
    mt isSingleDot_segmentText_iff.mp h.not_dot
  have double : ¬ isDoubleDot (segmentText special text) = true :=
    mt isDoubleDot_segmentText_iff.mp h.not_dots
  unfold pushSegment
  rw [if_neg raw, if_neg double, if_neg single]

/-- **A text that is proper** makes one more segment. -/
theorem pushSegment_of_proper (h : IsProper text) (filled : segments ≠ [[]]) :
    pushSegment special segments text = segments ++ [segmentText special text] := by
  rw [pushSegment_eq_of_proper h, if_neg filled]

theorem pushSegment_ends (special : Bool) (segments : List (List Char)) (h : IsProper text) :
    ∃ stem, pushSegment special segments text = stem ++ [segmentText special text] := by
  rw [pushSegment_eq_of_proper h]
  by_cases lone : segments = [[]]
  · exact ⟨[], if_pos lone⟩
  · exact ⟨segments, if_neg lone⟩

theorem append_ne_lone {stem : List (List Char)} {last : List Char} (h : last ≠ []) :
    stem ++ [last] ≠ [[]] := by
  intro lone
  have hl := congrArg List.getLast? lone
  rw [List.getLast?_concat] at hl
  exact h (Option.some.inj hl)

/-- A text of which a dot is written adds nothing, or an empty segment. -/
theorem pushSegment_of_dot (h : visible text = ['.']) (filled : segments ≠ [[]]) :
    pushSegment special segments text = segments ∨
      pushSegment special segments text = segments ++ [[]] := by
  have double : ¬ isDoubleDot (segmentText special text) = true := by
    rw [isDoubleDot_segmentText_iff, h]
    decide
  unfold pushSegment
  by_cases raw : text = ['.'] ∨ text = ['.', '.']
  · exact .inl (if_pos raw)
  · rw [if_neg raw, if_neg double, if_pos (isSingleDot_segmentText_iff.mpr h), if_neg filled]
    exact .inr rfl

/-- A text of which two dots are written adds nothing, or takes the last segment away. -/
theorem pushSegment_of_dots (h : visible text = ['.', '.']) :
    pushSegment special segments text = segments ∨
      pushSegment special segments text = segments.dropLast ++ [[]] := by
  unfold pushSegment
  by_cases raw : text = ['.'] ∨ text = ['.', '.']
  · exact .inl (if_pos raw)
  · rw [if_neg raw, if_pos (isDoubleDot_segmentText_iff.mpr h)]
    exact .inr rfl

/-! ### The written form -/

theorem segmentChars_append (segments others : List (List Char)) :
    segmentChars (segments ++ others) = segmentChars segments ++ segmentChars others :=
  List.flatMap_append

theorem segmentChars_of_two (two : 2 ≤ segments.length) :
    ∃ c chars, segmentChars segments = '/' :: c :: chars := by
  match segments, two with
  | [] :: second :: rest, _ => exact ⟨'/', second ++ segmentChars rest, rfl⟩
  | (c :: cs) :: second :: rest, _ => exact ⟨c, cs ++ segmentChars (second :: rest), rfl⟩

theorem pathChars_of_last (u : Url) (two : 2 ≤ segments.length) (last : List Char) :
    ({ u with path := .segments (segments ++ [last]) } : Url).pathChars =
      ({ u with path := .segments segments } : Url).pathChars ++ '/' :: last := by
  obtain ⟨c, chars, hc⟩ := segmentChars_of_two two
  have hl : segmentChars [last] = '/' :: last := by simp [segmentChars]
  -- Whether a sign stands before the path is settled by its first two characters.
  have slashes : ['/', '/'].isPrefixOf ('/' :: c :: chars ++ '/' :: last) =
      ['/', '/'].isPrefixOf ('/' :: c :: chars) := rfl
  unfold pathChars
  dsimp only
  rw [segmentChars_append, hc, hl, slashes]
  by_cases sign : (u.host.isNone && ['/', '/'].isPrefixOf ('/' :: c :: chars)) = true
  · rw [if_pos sign, if_pos sign]
    rfl
  · rw [if_neg sign, if_neg sign]

/-- **URLs that differ in the last segment at most** are written alike exactly when they do not. -/
theorem text_eq_iff_of_last (u : Url) (two : 2 ≤ segments.length) {last other : List Char} :
    ({ u with path := .segments (segments ++ [last]) } : Url).text =
        ({ u with path := .segments (segments ++ [other]) } : Url).text ↔
      last = other := by
  constructor
  · intro h
    have hc := String.ofList_inj.mp h
    unfold chars at hc
    rw [pathChars_of_last u two, pathChars_of_last u two] at hc
    have hp := List.append_cancel_left (List.append_cancel_right hc)
    simpa using hp
  · intro h
    rw [h]

end RealmKeeper.Url
