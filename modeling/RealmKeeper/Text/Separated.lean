import RealmKeeper.Text.Blank

/-!
# Separated lists

Text that lists entries between separators, such as `a, b,,c`.

* `pieces`: the parts between the separators, the empty ones included, and
  `pieces_eq_splitOn`, which says that they are what splitting gives;
* `entries`: the pieces, trimmed, without the blank ones.
-/

namespace RealmKeeper.Text

/-- The parts of the text between occurrences of the separator; one more than there are
separators. -/
def pieces (separator : Char) : List Char → List (List Char)
  | [] => [[]]
  | c :: rest =>
    if c = separator then [] :: pieces separator rest
    else
      match pieces separator rest with
      | [] => [[c]]
      | first :: others => (c :: first) :: others

/-- **The entries of a separated list**: its pieces, trimmed, without those that are blank. -/
def entries (separator : Char) (cs : List Char) : List (List Char) :=
  ((pieces separator cs).map trim).filter (· ≠ [])

/-- The entries of a separated list given as a string. -/
def entryStrings (separator : Char) (text : String) : List String :=
  (entries separator text.toList).map String.ofList

/-! ### Splitting -/

/-- A character before the first of some parts. -/
theorem modifyHead_eq_match (c : Char) (parts : List (List Char)) :
    parts ≠ [] →
      (match parts with
        | [] => [[c]]
        | first :: others => (c :: first) :: others) = parts.modifyHead (c :: ·) := by
  intro h
  cases parts with
  | nil => exact absurd rfl h
  | cons first others => rfl

/-- **The pieces are what splitting gives.** -/
theorem pieces_eq_splitOn (separator : Char) (cs : List Char) :
    pieces separator cs = cs.splitOn separator := by
  induction cs with
  | nil => rfl
  | cons c rest ih =>
    rw [pieces, List.splitOn_cons_eq_if_modifyHead, ih]
    by_cases h : c = separator
    · rw [if_pos h, if_pos (by simpa using h)]
    · rw [if_neg h, if_neg (by simpa using h)]
      exact modifyHead_eq_match c _ (List.splitOn_ne_nil _ _)

/-- A part has the characters of the text but for those at which it is split. -/
theorem of_mem_splitOnP {p : Char → Bool} {cs part : List Char} {c : Char}
    (h : part ∈ cs.splitOnP p) (hc : c ∈ part) : c ∈ cs ∧ p c = false := by
  induction cs generalizing part with
  | nil =>
    rw [List.splitOnP_nil, List.mem_singleton] at h
    rw [h] at hc
    cases hc
  | cons d rest ih =>
    have later {part : List Char} (h : part ∈ rest.splitOnP p) (hc : c ∈ part) :
        c ∈ d :: rest ∧ p c = false :=
      (ih h hc).imp_left (List.mem_cons_of_mem d)
    rw [List.splitOnP_cons_eq_if_modifyHead] at h
    cases parted : p d with
    | true =>
      rw [if_pos parted] at h
      rcases List.mem_cons.mp h with rfl | h
      · cases hc
      · exact later h hc
    | false =>
      rw [if_neg (by simp [parted])] at h
      cases parts : rest.splitOnP p with
      | nil => exact absurd parts (List.splitOnP_ne_nil _ _)
      | cons first others =>
        rw [parts, List.modifyHead_cons] at h
        rw [parts] at later
        rcases List.mem_cons.mp h with rfl | h
        · rcases List.mem_cons.mp hc with rfl | hc
          · exact ⟨List.mem_cons_self, parted⟩
          · exact later List.mem_cons_self hc
        · exact later (List.mem_cons_of_mem _ h) hc

end RealmKeeper.Text
