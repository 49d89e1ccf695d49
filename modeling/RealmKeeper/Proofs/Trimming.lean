import RealmKeeper.Text.Blank
import Mathlib.Data.List.TakeWhile

/-!
# What is left of a text that is trimmed

* `TrimsTo`: a text and what is left of it without the blank characters at its ends;
* `trimsTo_trim`: trimming leaves just this, and `trimsTo_iff`: nothing else is left;
* `isAllBlank_iff_trim_eq_nil`: text is all blank exactly when trimming leaves nothing.
-/

namespace RealmKeeper.Text

/-- **A text without the blank characters at its ends**: only those are taken off, and all of
them. -/
def TrimsTo (text core : List Char) : Prop :=
  ∃ before after, text = before ++ core ++ after ∧
    (∀ ch ∈ before ++ after, isBlank ch = true) ∧
    (∀ ch ∈ core.head?, isBlank ch = false) ∧ (∀ ch ∈ core.getLast?, isBlank ch = false)

theorem isAllBlank_iff_trim_eq_nil (text : List Char) :
    isAllBlank text = true ↔ trim text = [] := by
  rw [trim, trimRight, List.reverse_eq_nil_iff, List.dropWhile_eq_nil_iff, isAllBlank,
    List.all_eq_true]
  constructor
  · intro blank ch h
    exact blank ch ((List.dropWhile_suffix isBlank).subset (List.mem_reverse.mp h))
  · intro rest ch h
    rw [← List.takeWhile_append_dropWhile (p := isBlank) (l := text)] at h
    rcases List.mem_append.mp h with h | h
    · exact List.mem_takeWhile_imp h
    · exact rest ch (List.mem_reverse.mpr h)

theorem head_dropWhile {text : List Char} {ch : Char} (h : ch ∈ (text.dropWhile isBlank).head?) :
    isBlank ch = false := by
  have hd := List.head?_dropWhile_not isBlank text
  rw [Option.mem_def.mp h] at hd
  exact hd

theorem trimRight_append (text : List Char) :
    trimRight text ++ (text.reverse.takeWhile isBlank).reverse = text := by
  rw [trimRight, ← List.reverse_append, List.takeWhile_append_dropWhile, List.reverse_reverse]

theorem trimsTo_trim (text : List Char) : TrimsTo text (trim text) := by
  have hr := trimRight_append (text.dropWhile isBlank)
  refine ⟨text.takeWhile isBlank, ((text.dropWhile isBlank).reverse.takeWhile isBlank).reverse,
    ?_, ?_, fun ch h => ?_, fun ch h => ?_⟩
  · rw [trim, List.append_assoc, hr, List.takeWhile_append_dropWhile]
  · intro ch h
    rcases List.mem_append.mp h with h | h
    · exact List.mem_takeWhile_imp h
    · exact List.mem_takeWhile_imp (List.mem_reverse.mp h)
  · refine @head_dropWhile text ch ?_
    rw [← hr, List.head?_append, ← trim, Option.mem_def.mp h]
    rfl
  · rw [trim, trimRight, List.getLast?_reverse] at h
    exact head_dropWhile h

theorem dropWhile_of_head {text : List Char} (h : ∀ ch ∈ text.head?, isBlank ch = false) :
    text.dropWhile isBlank = text := by
  cases text with
  | nil => rfl
  | cons ch rest => exact List.dropWhile_cons_of_neg (by simp [h ch rfl])

/-- **Nothing else is left** of a text than what trimming leaves. -/
theorem trimsTo_iff {text core : List Char} : TrimsTo text core ↔ trim text = core := by
  constructor
  · rintro ⟨before, after, rfl, blank, first, last⟩
    have left (ch : Char) (h : ch ∈ before) := blank ch (List.mem_append_left _ h)
    have right (ch : Char) (h : ch ∈ after.reverse) :=
      blank ch (List.mem_append_right _ (List.mem_reverse.mp h))
    have ends : core.reverse.dropWhile isBlank = core.reverse :=
      dropWhile_of_head fun ch h => last ch (by rwa [List.head?_reverse] at h)
    have trimmed : trimRight (core ++ after) = core := by
      rw [trimRight, List.reverse_append, List.dropWhile_append_of_pos right, ends,
        List.reverse_reverse]
    rw [trim, List.append_assoc, List.dropWhile_append_of_pos left]
    cases core with
    | nil =>
      have nothing : after.dropWhile isBlank = [] :=
        List.dropWhile_eq_nil_iff.mpr fun ch h => right ch (List.mem_reverse.mpr h)
      rw [List.nil_append, nothing]
      rfl
    | cons ch rest => rwa [dropWhile_of_head (by simpa using first)]
  · rintro rfl
    exact trimsTo_trim text

end RealmKeeper.Text
