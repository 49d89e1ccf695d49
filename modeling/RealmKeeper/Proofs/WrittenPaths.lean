import RealmKeeper.Proofs.Results
import RealmKeeper.Proofs.Segments
import RealmKeeper.Text.Separated
import RealmKeeper.Url.Parse
import Mathlib.Data.List.Infix

/-!
# Paths as they are written

Which segments stand in the path of a URL as they are, so that reading the path gives them back.

* `IsWritten`: such a segment; `isWritten_of_mem_segmentsOf` and `isWritten_segmentText`: those that
  are read and those that are made of proper texts are such;
* `hostedSegments_segmentChars`: reading a path of such segments gives them;
* `HasSegments`: the path of a URL has segments, and `HasSegments.eq_of_text_eq`: its text tells
  which;
* `trunk`: the segments to which others are added, and `pushSegments_of_proper`, which says so;
* `exists_segments_of_parsed`: a URL of HTTP that is read has a host, and such segments.
-/

namespace RealmKeeper.Url

open RealmKeeper.Text

/-! ### Segments that stand as they are -/

/-- **A segment as it is written**: nothing in it is escaped or parts it, and it is none of the two
that mean a place. -/
structure IsWritten (segment : List Char) : Prop where
  plain : ∀ ch ∈ segment, ch.toNat < 0x80 ∧ inPathSet ch = false ∧ isSlash true ch = false
  not_single : isSingleDot segment = false
  not_double : isDoubleDot segment = false

theorem isWritten_nil : IsWritten [] :=
  ⟨nofun, by decide, by decide⟩

theorem plain_of_mem_escapeOctet {b : UInt8} {ch : Char} (h : ch ∈ escapeOctet b) :
    ch.toNat < 0x80 ∧ inPathSet ch = false ∧ isSlash true ch = false :=
  of_mem_escapeOctet (P := fun ch => ch.toNat < 0x80 ∧ inPathSet ch = false ∧
    isSlash true ch = false) (by decide) (by decide) h

theorem mem_escape {inSet : Char → Bool} {cs : List Char} {ch : Char} (h : ch ∈ escape inSet cs) :
    (ch ∈ cs ∧ ch.toNat < 0x80 ∧ inSet ch = false) ∨ ∃ b, ch ∈ escapeOctet b := by
  obtain ⟨c, mem, hc⟩ := List.mem_flatMap.mp h
  unfold escapeChar at hc
  split_ifs at hc with plain
  · obtain rfl := List.mem_singleton.mp hc
    simp only [Bool.and_eq_true, decide_eq_true_eq, Bool.not_eq_true'] at plain
    exact .inl ⟨mem, plain⟩
  · obtain ⟨b, -, hb⟩ := List.mem_flatMap.mp hc
    exact .inr ⟨b, hb⟩

theorem escape_of_plain {inSet : Char → Bool} {cs : List Char}
    (h : ∀ ch ∈ cs, ch.toNat < 0x80 ∧ inSet ch = false) : escape inSet cs = cs := by
  induction cs with
  | nil => rfl
  | cons c rest ih =>
    obtain ⟨ascii, free⟩ := h c List.mem_cons_self
    show escapeChar inSet c ++ escape inSet rest = c :: rest
    have later := ih fun ch hc => h ch (List.mem_cons_of_mem c hc)
    rw [later, escapeChar, if_pos (by simp [ascii, free])]
    rfl

/-! ### Reading -/

theorem slashParts_eq_splitOnP (special : Bool) (cs : List Char) :
    slashParts special cs = cs.splitOnP (isSlash special) := by
  induction cs with
  | nil => rfl
  | cons c rest ih =>
    rw [slashParts, List.splitOnP_cons_eq_if_modifyHead, ih]
    split_ifs with slash
    · rfl
    · exact modifyHead_eq_match c _ (List.splitOnP_ne_nil _ _)

theorem driveSegment_false (before : List (List Char)) (segment : List Char) :
    driveSegment false before segment = segment := by
  unfold driveSegment
  split <;> rfl

theorem mem_of_mem_shorten {file : Bool} {segments : List (List Char)} {segment : List Char}
    (h : segment ∈ shorten file segments) : segment ∈ segments := by
  unfold shorten at h
  split at h
  · split_ifs at h
    · exact h
    · cases h
  · exact List.mem_of_mem_dropLast h

/-- **Working off segments** leaves those that mean no place, and perhaps empty ones. -/
theorem forall_mem_resolveFrom {P : List Char → Prop} (empty : P [])
    {before segments : List (List Char)} (h : ∀ segment ∈ before, P segment)
    (own : ∀ segment ∈ segments, isSingleDot segment = false → isDoubleDot segment = false →
      P segment) :
    ∀ segment ∈ resolveFrom false before segments, P segment := by
  have concat {before : List (List Char)} {last : List Char} (h : ∀ segment ∈ before, P segment)
      (hl : P last) : ∀ segment ∈ before ++ [last], P segment :=
    List.forall_mem_append.mpr ⟨h, List.forall_mem_singleton.mpr hl⟩
  have shortened {before : List (List Char)} (h : ∀ segment ∈ before, P segment) :
      ∀ segment ∈ shorten false before, P segment :=
    fun segment mem => h segment (mem_of_mem_shorten mem)
  fun_induction resolveFrom false before segments with
  | case1 before => exact h
  | case2 before last double => exact concat (shortened h) empty
  | case3 before last double single => exact concat h empty
  | case4 before last double single =>
    rw [driveSegment_false]
    exact concat h (own last List.mem_cons_self (by simpa using single) (by simpa using double))
  | case5 before segment rest more double ih =>
    exact ih (shortened h) fun s mem => own s (List.mem_cons_of_mem _ mem)
  | case6 before segment rest more double single ih =>
    exact ih h fun s mem => own s (List.mem_cons_of_mem _ mem)
  | case7 before segment rest more double single ih =>
    rw [driveSegment_false] at ih ⊢
    exact ih (concat h (own segment List.mem_cons_self (by simpa using single)
      (by simpa using double))) fun s mem => own s (List.mem_cons_of_mem _ mem)

theorem resolveFrom_of_written {segments : List (List Char)} (before : List (List Char))
    (h : ∀ segment ∈ segments, IsWritten segment) :
    resolveFrom false before segments = before ++ segments := by
  fun_induction resolveFrom false before segments with
  | case1 before => exact (List.append_nil before).symm
  | case2 before last double =>
    rw [(h last List.mem_cons_self).not_double] at double
    cases double
  | case3 before last double single =>
    rw [(h last List.mem_cons_self).not_single] at single
    cases single
  | case4 before last double single => rw [driveSegment_false]
  | case5 before segment rest more double ih =>
    rw [(h segment List.mem_cons_self).not_double] at double
    cases double
  | case6 before segment rest more double single ih =>
    rw [(h segment List.mem_cons_self).not_single] at single
    cases single
  | case7 before segment rest more double single ih =>
    rw [ih fun s mem => h s (List.mem_cons_of_mem _ mem), driveSegment_false, List.append_assoc,
      List.singleton_append]

/-- **What is read of a path** are segments that stand as they are. -/
theorem isWritten_of_mem_segmentsOf {cs segment : List Char}
    (h : segment ∈ segmentsOf true false cs) : IsWritten segment := by
  refine forall_mem_resolveFrom isWritten_nil (List.forall_mem_nil _)
    (fun segment mem single double => ?_) segment h
  refine ⟨fun ch hc => ?_, single, double⟩
  obtain ⟨part, parted, rfl⟩ := List.mem_map.mp mem
  rw [slashParts_eq_splitOnP] at parted
  rcases mem_escape hc with ⟨inside, ascii, free⟩ | ⟨b, hb⟩
  · exact ⟨ascii, free, (of_mem_splitOnP parted inside).2⟩
  · exact plain_of_mem_escapeOctet hb

theorem slashParts_segmentChars {segments : List (List Char)} (filled : segments ≠ [])
    (h : ∀ segment ∈ segments, IsWritten segment) :
    slashParts true ((segmentChars segments).drop 1) = segments := by
  rw [slashParts_eq_splitOnP]
  induction segments with
  | nil => exact absurd rfl filled
  | cons segment rest ih =>
    have whole : ∀ ch ∈ segment, isSlash true ch = false :=
      fun ch hc => ((h segment List.mem_cons_self).plain ch hc).2.2
    show (segment ++ segmentChars rest).splitOnP _ = segment :: rest
    cases rest with
    | nil => rw [segmentChars, List.flatMap_nil, List.append_nil, List.splitOnP_eq_singleton whole]
    | cons next others =>
      have later := ih (List.cons_ne_nil _ _) fun s mem => h s (List.mem_cons_of_mem _ mem)
      show (segment ++ '/' :: _).splitOnP _ = _
      rw [List.splitOnP_append_cons_of_forall_mem whole '/' (by decide)]
      exact congrArg _ later

theorem hostedSegments_true (cs : List Char) :
    hostedSegments true cs = segmentsOf true false (dropSlash true cs) :=
  if_neg (by simp)

/-- **Reading a path gives the segments that are written in it.** -/
theorem hostedSegments_segmentChars {segments : List (List Char)} (filled : segments ≠ [])
    (h : ∀ segment ∈ segments, IsWritten segment) :
    hostedSegments true (segmentChars segments) = segments := by
  have kept : segments.map (escape inPathSet) = segments.map id :=
    List.map_congr_left fun segment mem => escape_of_plain fun ch hc =>
      ⟨((h segment mem).plain ch hc).1, ((h segment mem).plain ch hc).2.1⟩
  have slashed : dropSlash true (segmentChars segments) = (segmentChars segments).drop 1 := by
    cases segments with
    | nil => rfl
    | cons segment rest => rfl
  rw [hostedSegments_true, slashed, segmentsOf, slashParts_segmentChars filled h, kept,
    List.map_id]
  exact resolveFrom_of_written [] h

/-! ### Writing -/

theorem pathChars_of_host {u : Url} {segments : List (List Char)} (host : u.host.isSome = true)
    (path : u.path = .segments segments) : u.pathChars = segmentChars segments := by
  unfold pathChars
  rw [path]
  exact if_neg (by simp [Option.isSome_iff_ne_none.mp host])

theorem endsPath_of_mem_segmentChars {segments : List (List Char)}
    (h : ∀ segment ∈ segments, IsWritten segment) :
    ∀ ch ∈ segmentChars segments, endsPath ch = false := by
  intro ch hc
  obtain ⟨segment, mem, hc⟩ := List.mem_flatMap.mp hc
  rcases List.mem_cons.mp hc with rfl | hc
  · decide
  · have free := ((h segment mem).plain ch hc).2.1
    simp only [inPathSet, Bool.or_eq_false_iff] at free
    obtain ⟨⟨⟨⟨-, hash⟩, mark⟩, -⟩, -⟩ := free
    simp [endsPath, mark, hash]

/-- **The path of a URL has these segments**: it is built of them, it goes on to its end, and
reading it gives them again. -/
structure HasSegments (u : Url) (segments : List (List Char)) : Prop where
  built : u.path = .segments segments
  whole : ∀ ch ∈ u.pathChars, endsPath ch = false
  read : hostedSegments true u.pathChars = segments

/-- **A path of segments that stand as they are** has these segments. -/
theorem hasSegments_of_written {u : Url} {segments : List (List Char)} (host : u.host.isSome = true)
    (path : u.path = .segments segments) (filled : segments ≠ [])
    (h : ∀ segment ∈ segments, IsWritten segment) : u.HasSegments segments := by
  have chars := pathChars_of_host host path
  refine ⟨path, ?_, ?_⟩
  · rw [chars]
    exact endsPath_of_mem_segmentChars h
  · rw [chars, hostedSegments_segmentChars filled h]

theorem takeWhile_pathChars {u : Url} (whole : ∀ ch ∈ u.pathChars, endsPath ch = false) :
    (u.pathChars ++ u.suffixChars).takeWhile (fun ch => !endsPath ch) = u.pathChars := by
  have stops : u.suffixChars.takeWhile (fun ch => !endsPath ch) = [] := by
    unfold suffixChars
    cases u.query with
    | some query => rfl
    | none => cases u.fragment <;> rfl
  rw [List.takeWhile_append_of_pos (by simpa using whole), stops, List.append_nil]

theorem HasSegments.eq_of_text_eq {u v : Url} {segments others : List (List Char)}
    (h : u.HasSegments segments) (h' : v.HasSegments others) (scheme : u.scheme = v.scheme)
    (authority : u.authorityChars = v.authorityChars) (same : u.text = v.text) :
    segments = others ∧ u.suffixChars = v.suffixChars := by
  have written := String.ofList_inj.mp same
  simp only [chars, scheme, authority, List.append_assoc] at written
  have rest := List.append_cancel_left (List.cons_inj_right _ |>.mp
    (List.append_cancel_left written))
  have paths : u.pathChars = v.pathChars := by
    rw [← takeWhile_pathChars h.whole, rest, takeWhile_pathChars h'.whole]
  rw [paths] at rest
  exact ⟨h.read.symm.trans (paths ▸ h'.read), List.append_cancel_left rest⟩

theorem query_eq_of_suffixChars_eq {u v : Url} (h : u.suffixChars = v.suffixChars)
    (fragment : u.fragment = v.fragment) : u.query = v.query := by
  unfold suffixChars at h
  rw [fragment] at h
  have queries := List.append_cancel_right h
  cases hu : u.query <;> cases hv : v.query <;> simp_all

/-! ### Adding proper texts -/

theorem isWritten_segmentText {text : List Char} (h : IsProper text) :
    IsWritten (segmentText true text) := by
  refine ⟨fun ch hc => ?_, ?_, ?_⟩
  · rcases mem_escape hc with ⟨-, ascii, free⟩ | ⟨b, hb⟩
    · simp only [if_true, inSpecialSegmentSet, inSegmentSet, Bool.or_eq_false_iff] at free
      obtain ⟨⟨⟨path, slash⟩, -⟩, back⟩ := free
      exact ⟨ascii, path, by simp [isSlash, slash, back]⟩
    · exact plain_of_mem_escapeOctet hb
  · simpa using mt isSingleDot_segmentText_iff.mp h.not_dot
  · simpa using mt isDoubleDot_segmentText_iff.mp h.not_dots

/-- **The segments to which others are added**: an empty one at the end is left out, and so is one
that is alone and empty then. -/
def trunk (segments : List (List Char)) : List (List Char) :=
  let kept := if segments.getLast? = some [] then segments.dropLast else segments
  if kept = [[]] then [] else kept

theorem mem_of_mem_trunk {segments : List (List Char)} {segment : List Char}
    (h : segment ∈ trunk segments) : segment ∈ segments := by
  have within : ∀ s ∈ (if segments.getLast? = some [] then segments.dropLast else segments),
      s ∈ segments := by
    intro s hs
    split_ifs at hs
    · exact List.mem_of_mem_dropLast hs
    · exact hs
  unfold trunk at h
  generalize (if segments.getLast? = some [] then segments.dropLast else segments) = kept
    at h within
  by_cases lone : kept = [[]]
  · rw [if_pos lone] at h
    cases h
  · rw [if_neg lone] at h
    exact within segment h

theorem trunk_eq (segments : List (List Char)) :
    trunk segments = if dropEmptyEnd segments = [[]] then [] else dropEmptyEnd segments := by
  match segments with
  | [] => rfl
  | [only] =>
    by_cases h : only = []
    · rw [h]
      rfl
    · simp [trunk, dropEmptyEnd, h]
  | _ :: _ :: _ => rfl

theorem pushSegment_dropEmptyEnd {special : Bool} {text : List Char} (segments : List (List Char))
    (h : IsProper text) : pushSegment special (dropEmptyEnd segments) text =
      trunk segments ++ [segmentText special text] := by
  rw [pushSegment_eq_of_proper h, trunk_eq]
  split_ifs <;> rfl

theorem foldl_pushSegment {special : Bool} {texts : List (List Char)}
    (proper : ∀ text ∈ texts, IsProper text) {segments : List (List Char)}
    (filled : ∃ segment ∈ segments, segment ≠ []) :
    texts.foldl (pushSegment special) segments =
      segments ++ texts.map (segmentText special) := by
  induction texts generalizing segments with
  | nil => simp
  | cons text rest ih =>
    have other : segments ≠ [[]] := by
      rintro rfl
      simp at filled
    rw [List.foldl_cons, pushSegment_of_proper (proper text List.mem_cons_self) other,
      ih (fun t mem => proper t (List.mem_cons_of_mem _ mem)), List.map_cons, List.append_assoc,
      List.singleton_append]
    obtain ⟨segment, mem, solid⟩ := filled
    exact ⟨segment, List.mem_append_left _ mem, solid⟩

/-- **Proper texts make a segment each** behind the trunk, if something is written of the first. -/
theorem pushSegments_of_proper (special : Bool) (segments : List (List Char))
    {first : List Char} {rest : List (List Char)} (written : visible first ≠ [])
    (proper : ∀ text ∈ first :: rest, IsProper text) :
    pushSegments special segments (first :: rest) =
      trunk segments ++ (first :: rest).map (segmentText special) := by
  obtain ⟨h, proper⟩ := List.forall_mem_cons.mp proper
  rw [pushSegments, List.foldl_cons, pushSegment_dropEmptyEnd segments h, foldl_pushSegment proper,
    List.append_assoc, List.singleton_append, List.map_cons]
  exact ⟨_, List.mem_append_right _ List.mem_cons_self, segmentText_ne_nil written⟩

/-! ### URLs that are read -/

theorem parseHosted_parts {scheme cs : List Char} {u : Url} (h : parseHosted scheme cs = .ok u) :
    u.scheme = scheme ∧ u.host.isSome = true ∧
      ∃ path, u.path = .segments (hostedSegments (isSpecialScheme scheme) path) := by
  obtain ⟨authority, -, rfl⟩ := exists_of_map_eq_ok h
  exact ⟨rfl, rfl, _, rfl⟩

theorem scheme_of_parseFile {cs : List Char} {u : Url} (h : parseFile cs = .ok u) :
    u.scheme = "file".toList := by
  unfold parseFile at h
  dsimp only [breakAt] at h
  split at h
  · split at h
    · split at h
      · rw [← Except.ok.inj h]
      · obtain ⟨host, -, rfl⟩ := exists_of_map_eq_ok h
        rfl
    · rw [← Except.ok.inj h]
  · rw [← Except.ok.inj h]

theorem isHttp_parts {u : Url} (http : u.isHttp = true) :
    u.isSpecial = true ∧ isFileScheme u.scheme = false := by
  unfold isHttp at http
  rcases Bool.or_eq_true_iff.mp http with h | h
  · rw [isSpecial, isSpecialScheme, isFileScheme, beq_iff_eq.mp h]
    decide
  · rw [isSpecial, isSpecialScheme, isFileScheme, beq_iff_eq.mp h]
    decide

/-- **A URL of HTTP that is read** has a host, and its segments stand as they are. -/
theorem exists_segments_of_parsed {text : String} {u : Url} (parsed : ofString text = .ok u)
    (http : u.isHttp = true) :
    u.isSpecial = true ∧ u.host.isSome = true ∧
      ∃ segments, u.path = .segments segments ∧ ∀ segment ∈ segments, IsWritten segment := by
  obtain ⟨special, other⟩ := isHttp_parts http
  have hosted {scheme cs : List Char} (h : parseHosted scheme cs = .ok u) :
      u.host.isSome = true ∧
        ∃ segments, u.path = .segments segments ∧ ∀ segment ∈ segments, IsWritten segment := by
    obtain ⟨rfl, host, path, hp⟩ := parseHosted_parts h
    refine ⟨host, _, hp, fun segment mem => ?_⟩
    rw [show isSpecialScheme u.scheme = true from special, hostedSegments_true] at mem
    exact isWritten_of_mem_segmentsOf mem
  refine ⟨special, ?_⟩
  unfold ofString parse at parsed
  split at parsed
  · cases parsed
  · split_ifs at parsed with file known
    · rw [scheme_of_parseFile parsed] at other
      cases other
    · exact hosted parsed
    · split at parsed
      · exact hosted parsed
      · cases parsed
        exact absurd special known

end RealmKeeper.Url
