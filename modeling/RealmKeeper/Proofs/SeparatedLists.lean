import Mathlib.Data.List.Forall2
import RealmKeeper.Proofs.Trimming
import RealmKeeper.Settings.Basic
import RealmKeeper.Text.Separated

/-!
# Texts that list entries between separators

A text lists the entries that stand in it, however they are laid out.

* `IsEntry`: what can be an entry, and `LaidOut`: pieces in which entries stand, each in a piece of
  its own between blank characters, with blank pieces anywhere;
* `remains`: what is left of pieces, and `entryStrings_eq`: the entries of a text are what is left
  of its pieces;
* `laidOut_remains`, `LaidOut.remains_eq`: this is laid out in the pieces, and nothing else is;
* `entryStrings_eq_iff`: a text lists just the entries that are laid out in its pieces;
* `Settings.separated_lists_read`: the lists among the settings, with their separators.
-/

namespace RealmKeeper.Text

variable {separator : Char} {text entry : String} {listed pieces : List String}
  {part : List Char} {parts : List (List Char)}

/-! ### Entries and pieces -/

/-- **An entry of a list**: it has no blank ends and no separator, and is not empty. -/
structure IsEntry (separator : Char) (entry : String) : Prop where
  ne_empty : entry ≠ ""
  head : ∀ ch ∈ entry.toList.head?, isBlank ch = false
  last : ∀ ch ∈ entry.toList.getLast?, isBlank ch = false
  apart : separator ∉ entry.toList

/-- **Entries are laid out in pieces**: each in a piece of its own, between blank characters, and
every other piece is blank. -/
inductive LaidOut : List String → List String → Prop where
  | done : LaidOut [] []
  | blank {listed pieces : List String} {piece : String} :
      (∀ ch ∈ piece.toList, isBlank ch = true) → LaidOut listed pieces →
        LaidOut listed (piece :: pieces)
  | entry {listed pieces : List String} {before entry after : String} :
      (∀ ch ∈ before.toList ++ after.toList, isBlank ch = true) → LaidOut listed pieces →
        LaidOut (entry :: listed) ((before ++ entry ++ after) :: pieces)

theorem laidOut_self (listed : List String) : LaidOut listed listed := by
  induction listed with
  | nil => exact .done
  | cons entry listed ih =>
    have alone : LaidOut (entry :: listed) (("" ++ entry ++ "") :: listed) := .entry nofun ih
    rwa [String.empty_append, String.append_empty] at alone

theorem IsEntry.trimsTo (h : IsEntry separator entry) {before after : String}
    (blank : ∀ ch ∈ before.toList ++ after.toList, isBlank ch = true) :
    TrimsTo (before ++ entry ++ after).toList entry.toList := by
  refine ⟨before.toList, after.toList, ?_, blank, h.head, h.last⟩
  rw [String.toList_append, String.toList_append]

/-- Where the separator is not blank, it is in no piece in which entries are laid out. -/
theorem LaidOut.apart (visible : isBlank separator = false) (laid : LaidOut listed pieces)
    (proper : ∀ entry ∈ listed, IsEntry separator entry) :
    ∀ piece ∈ pieces, separator ∉ piece.toList := by
  have solid {cs : List Char} (blank : ∀ ch ∈ cs, isBlank ch = true) : separator ∉ cs := by
    intro mem
    rw [blank separator mem] at visible
    cases visible
  induction laid with
  | done => exact nofun
  | blank blank _ ih => exact List.forall_mem_cons.mpr ⟨solid blank, ih proper⟩
  | entry blank _ ih =>
    obtain ⟨first, others⟩ := List.forall_mem_cons.mp proper
    refine List.forall_mem_cons.mpr ⟨?_, ih others⟩
    obtain ⟨left, right⟩ := not_or.mp (mt List.mem_append.mpr (solid blank))
    simp [left, right, first.apart]

/-! ### What is left of pieces -/

theorem isAllBlank_eq_false_iff : isAllBlank part = false ↔ trim part ≠ [] := by
  rw [← Bool.not_eq_true, isAllBlank_iff_trim_eq_nil]

/-- **What is left of the parts of a text**: those that are not blank, trimmed. -/
def remains (parts : List (List Char)) : List String :=
  (parts.filter fun part => !isAllBlank part).map fun part => String.ofList (trim part)

/-- **The entries of a text** are what is left of its pieces. -/
theorem entryStrings_eq :
    entryStrings separator text = remains (text.toList.splitOn separator) := by
  have solid (part : List Char) : decide (trim part ≠ []) = !isAllBlank part := by
    rw [Bool.eq_iff_iff]
    simp [← isAllBlank_iff_trim_eq_nil]
  simp only [entryStrings, entries, pieces_eq_splitOn, remains, List.filter_map, List.map_map,
    Function.comp_def, solid]

theorem remains_cons_of_blank (blank : ∀ ch ∈ part, isBlank ch = true) :
    remains (part :: parts) = remains parts := by
  have all : isAllBlank part = true := List.all_eq_true.mpr blank
  simp [remains, all]

theorem remains_cons_of_trimsTo (whole : TrimsTo part entry.toList) (filled : entry ≠ "") :
    remains (part :: parts) = entry :: remains parts := by
  have trimmed := trimsTo_iff.mp whole
  have solid : isAllBlank part = false := by
    rw [isAllBlank_eq_false_iff, trimmed]
    exact mt String.toList_eq_nil_iff.mp filled
  simp [remains, solid, trimmed]

/-- **What is left of parts** is laid out in them. -/
theorem laidOut_remains (parts : List (List Char)) :
    LaidOut (remains parts) (parts.map String.ofList) := by
  induction parts with
  | nil => exact .done
  | cons part parts ih =>
    rw [List.map_cons]
    by_cases blank : ∀ ch ∈ part, isBlank ch = true
    · rw [remains_cons_of_blank blank]
      exact .blank (by rwa [String.toList_ofList]) ih
    · obtain ⟨before, after, whole, ends, -, -⟩ := trimsTo_trim part
      have filled : String.ofList (trim part) ≠ "" := by
        intro nothing
        rw [String.ofList_eq_empty_iff, ← isAllBlank_iff_trim_eq_nil] at nothing
        exact blank (List.all_eq_true.mp nothing)
      have core : TrimsTo part (String.ofList (trim part)).toList := by
        rw [String.toList_ofList]
        exact trimsTo_trim part
      have spelled : String.ofList part =
          String.ofList before ++ String.ofList (trim part) ++ String.ofList after := by
        rw [← String.ofList_append, ← String.ofList_append, ← whole]
      rw [remains_cons_of_trimsTo core filled, spelled]
      exact .entry (by simpa only [String.toList_ofList] using ends) ih

/-- **Nothing else is left of pieces** than the entries that are laid out in them. -/
theorem LaidOut.remains_eq (laid : LaidOut listed pieces)
    (proper : ∀ entry ∈ listed, IsEntry separator entry) :
    remains (pieces.map String.toList) = listed := by
  induction laid with
  | done => rfl
  | blank blank _ ih => rw [List.map_cons, remains_cons_of_blank blank, ih proper]
  | entry blank _ ih =>
    obtain ⟨first, others⟩ := List.forall_mem_cons.mp proper
    rw [List.map_cons, remains_cons_of_trimsTo (first.trimsTo blank) first.ne_empty, ih others]

/-! ### The entries of a text -/

/-- **What is listed** is what some piece of the text leaves, if it leaves anything. -/
theorem mem_entryStrings_iff :
    entry ∈ entryStrings separator text ↔
      entry ≠ "" ∧ ∃ piece ∈ text.toList.splitOn separator, TrimsTo piece entry.toList := by
  have filled : entry ≠ "" ↔ entry.toList ≠ [] := not_congr String.toList_eq_nil_iff.symm
  have same (cs : List Char) : String.ofList cs = entry ↔ cs = entry.toList := by
    rw [← String.toList_inj, String.toList_ofList]
  simp only [entryStrings_eq, remains, List.mem_map, List.mem_filter, Bool.not_eq_true',
    isAllBlank_eq_false_iff, same, filled, trimsTo_iff]
  constructor
  · rintro ⟨piece, ⟨mem, solid⟩, whole⟩
    exact ⟨whole ▸ solid, piece, mem, whole⟩
  · rintro ⟨solid, piece, mem, whole⟩
    exact ⟨piece, ⟨mem, whole ▸ solid⟩, whole⟩

theorem isEntry_of_mem (mem : entry ∈ entryStrings separator text) : IsEntry separator entry := by
  obtain ⟨filled, piece, within, before, after, whole, -, head, last⟩ := mem_entryStrings_iff.mp mem
  refine ⟨filled, head, last, fun inside => ?_⟩
  have deeper : separator ∈ piece := by
    rw [whole]
    exact List.mem_append_left _ (List.mem_append_right _ inside)
  rw [List.splitOn_eq_splitOnP] at within
  simpa using (of_mem_splitOnP within deeper).2

/-- **Each entry is left of its own piece**, in the order of the pieces. -/
theorem forall₂_trimsTo (separator : Char) (text : String) :
    List.Forall₂ (fun part entry => TrimsTo part entry.toList)
      ((text.toList.splitOn separator).filter fun part => !isAllBlank part)
      (entryStrings separator text) := by
  rw [entryStrings_eq, remains, List.forall₂_map_right_iff, List.forall₂_same]
  intro part _
  rw [String.toList_ofList]
  exact trimsTo_trim part

/-- **The entries that are laid out** in the pieces of a text are the entries of the text. -/
theorem LaidOut.entryStrings_intercalate (visible : isBlank separator = false)
    (laid : LaidOut listed pieces) (proper : ∀ entry ∈ listed, IsEntry separator entry) :
    entryStrings separator ((String.singleton separator).intercalate pieces) = listed := by
  rw [entryStrings_eq, String.toList_intercalate, String.toList_singleton]
  by_cases given : pieces.map String.toList = []
  · obtain rfl := List.map_eq_nil_iff.mp given
    cases laid
    rfl
  · have apart := laid.apart visible proper
    rw [List.splitOn_intercalate separator (by simpa using apart) given]
    exact laid.remains_eq proper

/-- **A text lists** just the entries that are laid out in its pieces. -/
theorem entryStrings_eq_iff (visible : isBlank separator = false) :
    entryStrings separator text = listed ↔
      (∀ entry ∈ listed, IsEntry separator entry) ∧
        ∃ pieces, LaidOut listed pieces ∧
          (String.singleton separator).intercalate pieces = text := by
  constructor
  · rintro rfl
    refine ⟨fun entry => isEntry_of_mem,
      (text.toList.splitOn separator).map String.ofList, ?_, ?_⟩
    · rw [entryStrings_eq]
      exact laidOut_remains _
    · rw [← String.toList_inj, String.toList_intercalate, List.map_map, String.toList_singleton]
      have same : String.toList ∘ String.ofList = id := funext fun _ => String.toList_ofList
      rw [same, List.map_id, List.intercalate_splitOn]
  · rintro ⟨proper, pieces, laid, rfl⟩
    exact laid.entryStrings_intercalate visible proper

end RealmKeeper.Text

/-! ### Settings that are lists -/

namespace RealmKeeper.Settings

open RealmKeeper.Text

/-- **A setting is read as a list** of what stands between separators. -/
structure ReadsList (separator : Char) (read : Option String → List String) : Prop where
  /-- Nothing is listed where nothing is set. -/
  unset : read none = []
  isEntry : ∀ text, ∀ entry ∈ read (some text), IsEntry separator entry
  /-- The entries are the pieces that are not blank, trimmed, one after another. -/
  entries : ∀ text, List.Forall₂ (fun piece entry => TrimsTo piece entry.toList)
    ((text.toList.splitOn separator).filter fun piece => !isAllBlank piece) (read (some text))
  /-- The same entries are read from every other text in which they are laid out. -/
  laidOut : ∀ text pieces, LaidOut (read (some text)) pieces →
    read (some ((String.singleton separator).intercalate pieces)) = read (some text)
  /-- Whatever can be an entry is read back from the text that joins it. -/
  joined : ∀ listed, (∀ entry ∈ listed, IsEntry separator entry) →
    read (some ((String.singleton separator).intercalate listed)) = listed
  /-- These are all texts from which the entries are read. -/
  eq_iff : ∀ text listed, read (some text) = listed ↔
    (∀ entry ∈ listed, IsEntry separator entry) ∧ ∃ pieces, LaidOut listed pieces ∧
      (String.singleton separator).intercalate pieces = text

theorem readsList {separator : Char} (visible : isBlank separator = false) :
    ReadsList separator fun text => entryStrings separator (text.getD "") where
  unset := rfl
  isEntry _ _ := isEntry_of_mem
  entries text := forall₂_trimsTo separator text
  laidOut _ _ laid := laid.entryStrings_intercalate visible fun _ => isEntry_of_mem
  joined listed proper := (laidOut_self listed).entryStrings_intercalate visible proper
  eq_iff _ _ := entryStrings_eq_iff visible

example : readCertificateBundles (some "/etc/ca.pem;; /etc/extra.pem\u3000;/etc/ca.pem") =
    ["/etc/ca.pem", "/etc/extra.pem", "/etc/ca.pem"] := by decide

/-- **The lists among the settings** are read as such: the files with certificates between
semicolons, and the realms that are never admitted between commas. -/
theorem separated_lists_read :
    ReadsList ';' readCertificateBundles ∧ ReadsList ',' readDenyList :=
  ⟨readsList (by decide), readsList (by decide)⟩

end RealmKeeper.Settings
