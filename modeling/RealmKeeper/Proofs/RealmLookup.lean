import RealmKeeper.Proofs.AdminRequests
import RealmKeeper.Proofs.Segments
import RealmKeeper.Proofs.Trimming
import RealmKeeper.Admission.Validator

/-!
# Which realm a lookup is about

The lookups of two realms should go to two places, neither of which is the collection of realms or
lies above it.

* `Url.IsAtOrAbove`: a URL is at a place or above it;
* `AreApart`: two lookups go to different places below the collection of realms;
* `areApart_iff`: they do exactly when the names differ in more than tabs and line breaks, and none
  is written as `.` or `..`; `not_forall_areApart` shows two names whose lookups are the same.
-/

namespace RealmKeeper

open RealmKeeper.Text

/-- **A URL is at a place or above it**: it has the same authority, and its segments, but for an
empty one at the end, begin the path of the place. -/
structure Url.IsAtOrAbove (u place : Url) : Prop where
  authority : u.scheme = place.scheme ∧ u.host = place.host ∧ u.port = place.port
  begins : ∃ stem rest, place.path = .segments (stem ++ rest) ∧
    (u.path = .segments stem ∨ u.path = .segments (stem ++ [[]]))

/-! ### Names -/

theorem isBlank_of_isVanishing {ch : Char} (h : Url.isVanishing ch = true) : isBlank ch = true := by
  simp only [Url.isVanishing, Bool.or_eq_true, beq_iff_eq] at h
  rcases h with (rfl | rfl) | rfl <;> decide

theorem visible_ne_nil {name : String} (filled : name ≠ "")
    (trimmed : Admission.trimmed name = name) : Url.visible name.toList ≠ [] := by
  have ht : trim name.toList = name.toList := by
    have hl := congrArg String.toList trimmed
    rwa [Admission.trimmed, String.toList_ofList] at hl
  obtain ⟨-, -, -, -, first, -⟩ := trimsTo_trim name.toList
  rw [ht] at first
  cases hn : name.toList with
  | nil => exact absurd (String.toList_eq_nil_iff.mp hn) filled
  | cons ch rest =>
    have solid : isBlank ch = false := first ch (by rw [hn]; rfl)
    have kept : (!Url.isVanishing ch) = true := by
      cases hv : Url.isVanishing ch with
      | false => rfl
      | true => rw [isBlank_of_isVanishing hv] at solid; cases solid
    exact List.ne_nil_of_mem (List.mem_filter.mpr ⟨List.mem_cons_self, kept⟩)

namespace Admin

open RealmKeeper.Http

variable {c : AdminClient} {special : Bool} {segments : List (List Char)}

/-- The collection of realms. -/
def AdminClient.realmCollection (c : AdminClient) : Url :=
  c.endpoint ["admin", "realms"]

/-- **Two lookups are apart**: they go to different URLs, and neither goes to the collection of
realms or above it. -/
structure AreApart (c : AdminClient) (first second : Request) : Prop where
  differ : first.url.text ≠ second.url.text
  first_below : ¬ first.url.IsAtOrAbove c.realmCollection
  second_below : ¬ second.url.IsAtOrAbove c.realmCollection

/-! ### Endpoints -/

theorem exists_segments (c : AdminClient) : ∃ segments, c.baseUrl.path = .segments segments := by
  have h := c.hierarchical
  unfold Url.isHierarchical at h
  cases hp : c.baseUrl.path with
  | segments segments => exact ⟨segments, rfl⟩
  | plain text =>
    rw [hp] at h
    cases h

theorem endpoint_eq (hp : c.baseUrl.path = .segments segments) (texts : List String) :
    c.endpoint texts = { c.baseUrl with
      path := .segments
        (Url.pushSegments c.baseUrl.isSpecial segments (texts.map String.toList)) } := by
  refine Option.get_of_eq_some _ ?_
  rw [Url.extendPath, hp]

theorem pushSegments_collection (special : Bool) (segments : List (List Char)) :
    ∃ stem, Url.pushSegments special segments ["admin".toList, "realms".toList] =
      stem ++ ["admin".toList] ++ ["realms".toList] := by
  have admin : Url.IsProper "admin".toList := ⟨by decide, by decide⟩
  have realms : Url.IsProper "realms".toList := ⟨by decide, by decide⟩
  have written : ∀ text ∈ ["admin".toList, "realms".toList],
      Url.segmentText special text = text := by
    cases special <;> decide
  obtain ⟨stem, hs⟩ := Url.pushSegment_ends special (Url.dropEmptyEnd segments) admin
  refine ⟨stem, ?_⟩
  rw [written _ (by simp)] at hs
  show Url.pushSegment special (Url.pushSegment special _ "admin".toList) "realms".toList = _
  rw [hs, Url.pushSegment_of_proper realms (Url.append_ne_lone (by decide)), written _ (by simp)]

/-- **The place of a lookup** in the collection of realms. -/
structure Places (c : AdminClient) (place : List (List Char)) : Prop where
  ends : ∃ stem, place = stem ++ ["admin".toList] ++ ["realms".toList]
  collection : c.realmCollection = { c.baseUrl with path := .segments place }
  realm : ∀ realm, c.realmEndpoint realm =
    { c.baseUrl with path := .segments (Url.pushSegment c.baseUrl.isSpecial place realm.toList) }

theorem exists_places (c : AdminClient) : ∃ place, Places c place := by
  obtain ⟨segments, hp⟩ := exists_segments c
  exact ⟨_, pushSegments_collection c.baseUrl.isSpecial segments, endpoint_eq hp _,
    fun realm => endpoint_eq hp _⟩

variable {place : List (List Char)} {realm token : String} {request : Request}

theorem Places.filled (h : Places c place) : place ≠ [[]] := by
  obtain ⟨stem, rfl⟩ := h.ends
  exact Url.append_ne_lone (by decide)

theorem Places.two (h : Places c place) : 2 ≤ place.length := by
  obtain ⟨stem, rfl⟩ := h.ends
  simp

theorem Places.url_eq (h : Places c place) (made : c.realmRequest realm token = .ok request) :
    request.url = { c.baseUrl.withoutUser with
      path := .segments (Url.pushSegment c.baseUrl.isSpecial place realm.toList) } := by
  rw [(authorized_eq_ok_iff.mp made).url_eq, h.realm]
  rfl

/-- A lookup is at the collection of realms or above it when its path begins that of the
collection. -/
theorem Places.isAtOrAbove_iff (h : Places c place)
    (made : c.realmRequest realm token = .ok request) :
    request.url.IsAtOrAbove c.realmCollection ↔
      ∃ stem rest, place = stem ++ rest ∧
        (Url.pushSegment c.baseUrl.isSpecial place realm.toList = stem ∨
          Url.pushSegment c.baseUrl.isSpecial place realm.toList = stem ++ [[]]) := by
  rw [h.url_eq made, h.collection]
  constructor
  · rintro ⟨-, stem, rest, hp, hs⟩
    simp only [Url.Path.segments.injEq] at hp hs
    exact ⟨stem, rest, hp, hs⟩
  · rintro ⟨stem, rest, hp, hs⟩
    refine ⟨⟨rfl, rfl, rfl⟩, stem, rest, congrArg _ hp, hs.imp (congrArg _) (congrArg _)⟩

/-- **A lookup is below the collection of realms** exactly when the name makes a segment of its
own. -/
theorem Places.isAtOrAbove_iff_not_isProper (h : Places c place)
    (made : c.realmRequest realm token = .ok request) (written : Url.visible realm.toList ≠ []) :
    request.url.IsAtOrAbove c.realmCollection ↔ ¬ Url.IsProper realm.toList := by
  rw [h.isAtOrAbove_iff made]
  constructor
  · rintro ⟨stem, rest, hp, hs⟩ proper
    rw [Url.pushSegment_of_proper proper h.filled] at hs
    rcases hs with hs | hs
    · have hl := congrArg List.length hs
      have hl' := congrArg List.length hp
      simp only [List.length_append, List.length_singleton] at hl hl'
      omega
    · have hn := (List.append_inj' hs rfl).2
      exact Url.segmentText_ne_nil written (List.singleton_inj.mp hn)
  · intro improper
    by_cases dot : Url.visible realm.toList = ['.']
    · exact ⟨place, [], (List.append_nil _).symm, Url.pushSegment_of_dot dot h.filled⟩
    · have dots : Url.visible realm.toList = ['.', '.'] := by
        by_contra hd
        exact improper ⟨dot, hd⟩
      rcases Url.pushSegment_of_dots dots with hs | hs
      · exact ⟨place, [], (List.append_nil _).symm, .inl hs⟩
      · obtain ⟨stem, rfl⟩ := h.ends
        rw [List.dropLast_concat] at hs
        exact ⟨_, _, rfl, .inr hs⟩

theorem Places.text_eq_iff (h : Places c place) {other token' : String} {request' : Request}
    (made : c.realmRequest realm token = .ok request)
    (made' : c.realmRequest other token' = .ok request')
    (proper : Url.IsProper realm.toList) (proper' : Url.IsProper other.toList) :
    request.url.text = request'.url.text ↔
      Url.visible realm.toList = Url.visible other.toList := by
  rw [h.url_eq made, h.url_eq made', Url.pushSegment_of_proper proper h.filled,
    Url.pushSegment_of_proper proper' h.filled, Url.text_eq_iff_of_last _ h.two,
    Url.segmentText_eq_iff]

/-! ### Lookups that are apart -/

/-- **Two lookups are apart** exactly when the names differ in more than tabs and line breaks, and
none is written as one of the two segments that mean a place. -/
theorem areApart_iff (c : AdminClient) {realm other token token' : String}
    {request request' : Request} (filled : realm ≠ "") (filled' : other ≠ "")
    (trimmed : Admission.trimmed realm = realm) (trimmed' : Admission.trimmed other = other)
    (made : c.realmRequest realm token = .ok request)
    (made' : c.realmRequest other token' = .ok request') :
    AreApart c request request' ↔
      Url.visible realm.toList ≠ Url.visible other.toList ∧
        Url.IsProper realm.toList ∧ Url.IsProper other.toList := by
  obtain ⟨place, h⟩ := exists_places c
  have below := h.isAtOrAbove_iff_not_isProper made (visible_ne_nil filled trimmed)
  have below' := h.isAtOrAbove_iff_not_isProper made' (visible_ne_nil filled' trimmed')
  constructor
  · rintro ⟨differ, hb, hb'⟩
    have proper : Url.IsProper realm.toList := by rwa [below, not_not] at hb
    have proper' : Url.IsProper other.toList := by rwa [below', not_not] at hb'
    exact ⟨mt (h.text_eq_iff made made' proper proper').mpr differ, proper, proper'⟩
  · rintro ⟨differ, proper, proper'⟩
    refine ⟨mt (h.text_eq_iff made made' proper proper').mp differ, ?_, ?_⟩
    · rwa [below, not_not]
    · rwa [below', not_not]

/-- The lookups of two names that are written differently are apart. -/
theorem areApart_dotted : ∃ request request',
    localClient.realmRequest "a/.." "token" = .ok request ∧
      localClient.realmRequest "a" "token" = .ok request' ∧
        AreApart localClient request request' := by
  obtain ⟨request, made⟩ : ∃ request, localClient.realmRequest "a/.." "token" = .ok request :=
    ⟨_, rfl⟩
  obtain ⟨request', made'⟩ : ∃ request, localClient.realmRequest "a" "token" = .ok request :=
    ⟨_, rfl⟩
  refine ⟨request, request', made, made', ?_⟩
  have apart := areApart_iff localClient (by decide) (by decide) (by decide) (by decide) made made'
  exact apart.mpr ⟨by decide, ⟨by decide, by decide⟩, ⟨by decide, by decide⟩⟩

/-- **Not all lookups of different names are apart**: two names that differ in a tab have the same
lookup. -/
theorem not_forall_areApart :
    ¬ ∀ (c : AdminClient) (realm other token token' : String) (request request' : Request),
      realm ≠ other → realm ≠ "" → other ≠ "" → Admission.trimmed realm = realm →
        Admission.trimmed other = other → c.realmRequest realm token = .ok request →
          c.realmRequest other token' = .ok request' → AreApart c request request' := by
  intro claim
  obtain ⟨request, made⟩ : ∃ request, localClient.realmRequest "ab" "token" = .ok request :=
    ⟨_, rfl⟩
  have same : localClient.realmRequest "a\tb" "token" = localClient.realmRequest "ab" "token" := rfl
  have apart := claim localClient "a\tb" "ab" "token" "token" request request (by decide)
    (by decide) (by decide) (by decide) (by decide) (same.trans made) made
  exact apart.differ rfl

end Admin

end RealmKeeper
