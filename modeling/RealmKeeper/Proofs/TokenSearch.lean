import RealmKeeper.Proofs.AdminToken

/-!
# The search for an admin token, moment by moment

What is asked when an operation looks for its token, and what is kept after it.

* `Issue`: a token that the provider has issued, and `Issue.IsKeptAs`, which says what is kept of
  it;
* `latest`: the last token issued in the moments of a run;
* `IsKept`: what is kept is the last token issued;
* `accessToken_searches`: the moments of a search, its result, and the world after it.
-/

namespace RealmKeeper.Provider

open RealmKeeper.Http RealmKeeper.Admin

/-- **A moment of a run**: a question, and the world in which it is asked. -/
abbrev Moment : Type := Question × World

/-! ### Issued tokens -/

/-- **A token that the provider has issued**, and when its reply had come. -/
structure Issue where
  token : IssuedToken
  time : Instant

namespace Issue

/-- The lifetime that is stated, in seconds. -/
def stated (i : Issue) : Int :=
  (i.token.expiresIn.map Int64.toInt).getD 300

/-- The nanosecond from which the token is not used again: its lifetime, of at most a day, is
counted from the reply, and thirty seconds are taken off. -/
def due (i : Issue) : Int :=
  i.time.nanoseconds + (max 0 (min 86400 i.stated) - 30) * 1000000000

/-- **What is kept of an issued token**: it expires when it is due, or at once if that lies beyond
the calendar. -/
structure IsKeptAs (i : Issue) (t : StoredToken) : Prop where
  value : t.value = i.token.token
  expires : t.expiresAt.nanoseconds = i.due ∨
    (i.due < calendarStart ∨ calendarEnd < i.due) ∧ t.expiresAt = i.time

/-- The token as it is kept. -/
def stored (i : Issue) : StoredToken :=
  ⟨i.token.token, tokenExpiry i.time i.token.expiresIn⟩

theorem isKeptAs_stored (i : Issue) : i.IsKeptAs i.stored := by
  refine ⟨rfl, ?_⟩
  have seconds : (usableSeconds i.token.expiresIn).toInt = max 0 (min 86400 i.stated) - 30 :=
    toInt_usableSeconds i.token.expiresIn
  have instant : i.stored.expiresAt = (Instant.ofNanoseconds? i.due).getD i.time := by
    rw [stored, tokenExpiry_eq, Instant.addSeconds?, seconds]
    rfl
  rw [instant, Instant.ofNanoseconds?]
  by_cases covered : calendarStart ≤ i.due ∧ i.due ≤ calendarEnd
  · rw [dif_pos covered]
    exact .inl rfl
  · rw [dif_neg covered]
    exact .inr ⟨by omega, rfl⟩

/-- **A kept token that can be used again is within its stated lifetime**, with thirty seconds to
spare. -/
theorem lt_of_usable {i : Issue} {t : StoredToken} {now : Instant} (kept : i.IsKeptAs t)
    (past : i.time.nanoseconds ≤ now.nanoseconds) (usable : t.isUsableAt now = true) :
    now.nanoseconds < i.time.nanoseconds + (i.stated - 30) * 1000000000 := by
  have before : now.nanoseconds < t.expiresAt.nanoseconds := of_decide_eq_true usable
  rcases kept.expires with expires | ⟨-, expires⟩
  · rw [expires, due] at before
    omega
  · rw [expires] at before
    omega

end Issue

/-- **The token that is issued at a moment**: the admin token is asked for, and the answer says
success and holds one. -/
def issue? (c : AdminClient) : Moment → Option Issue
  | (.send prepared, w) =>
    if prepared = c.tokenRequest then
      match w.send prepared with
      | (.answered response, after) =>
        match successDocument .atRequests IssuedToken.read AdminClient.tokenOperation response with
        | .ok token => some ⟨token, after.clock⟩
        | .error _ => none
      | _ => none
    else none
  | _ => none

/-- **The last token that was issued.** -/
def latest (c : AdminClient) (moments : List Moment) : Option Issue :=
  (moments.filterMap (issue? c)).getLast?

/-- **What is kept is the last token issued**, and its reply is not in the future. -/
structure IsKept (c : AdminClient) (past : List Moment) (w : World) : Prop where
  kept : Option.Rel Issue.IsKeptAs (latest c past) w.token
  before : ∀ i ∈ latest c past, i.time.nanoseconds ≤ w.clock.nanoseconds

variable {c : AdminClient} {watch : Watch} {w v : World} {past here : List Moment}

theorem latest_append : latest c (past ++ here) = (latest c here).or (latest c past) := by
  rw [latest, List.filterMap_append, List.getLast?_append]
  rfl

theorem latest_append_of_silent (past : List Moment) (h : ∀ m ∈ here, issue? c m = none) :
    latest c (past ++ here) = latest c past := by
  have silent : here.filterMap (issue? c) = [] := List.filterMap_eq_nil_iff.mpr h
  rw [latest_append, latest, silent, List.getLast?_nil, Option.none_or]

theorem latest_append_of_issue (past : List Moment) {m : Moment} {i : Issue}
    (h : issue? c m = some i) :
    latest c (past ++ [m]) = some i := by
  rw [latest_append, latest, List.filterMap_cons_some h]
  rfl

/-! ### What a question changes -/

theorem le_clock_advance (t : Instant) (n : Nat) : t.nanoseconds ≤ (t.advance n).nanoseconds := by
  unfold Instant.advance Instant.ofNanoseconds?
  split
  · show t.nanoseconds ≤ t.nanoseconds + n
    omega
  · exact Int.le_refl _

theorem World.send_keeps (prepared : AdminClient.Prepared) (w : World) :
    (w.send prepared).2.token = w.token ∧
      w.clock.nanoseconds ≤ (w.send prepared).2.clock.nanoseconds := by
  have later := le_clock_advance w.clock w.next.elapsed
  unfold World.send
  split
  · exact ⟨rfl, Int.le_refl _⟩
  split
  · exact ⟨rfl, Int.le_refl _⟩
  split
  · exact ⟨rfl, later⟩
  · exact ⟨rfl, later⟩
  · exact ⟨rfl, later⟩
  · dsimp only
    split <;> exact ⟨rfl, later⟩

theorem IsKept.of_le (h : IsKept c past w) (token : v.token = w.token)
    (later : w.clock.nanoseconds ≤ v.clock.nanoseconds) : IsKept c past v := by
  refine ⟨by rw [token]; exact h.kept, fun i hi => ?_⟩
  exact Int.le_trans (h.before i hi) later

theorem IsKept.send (h : IsKept c past w) (prepared : AdminClient.Prepared) :
    IsKept c past (w.send prepared).2 := by
  obtain ⟨token, later⟩ := World.send_keeps prepared w
  exact h.of_le token later

theorem IsKept.append (h : IsKept c past w) (silent : ∀ m ∈ here, issue? c m = none) :
    IsKept c (past ++ here) w := by
  have same := latest_append_of_silent past silent
  exact ⟨same ▸ h.kept, same ▸ h.before⟩

/-! ### A search -/

theorem successDocument_eq_ok_congr (watch : Watch) {response : Response} {token : IssuedToken} :
    successDocument .atRequests IssuedToken.read AdminClient.tokenOperation response = .ok token ↔
      successDocument watch IssuedToken.read AdminClient.tokenOperation response = .ok token := by
  rw [successDocument_eq_ok_iff, successDocument_eq_ok_iff]

/-- The world in which an issued token is kept. -/
def Issue.keptIn (i : Issue) (w : World) : World :=
  { w with token := some i.stored }

theorem fetchToken_moments (c : AdminClient) (watch : Watch) (w : World) :
    (∃ e, issue? c (.send c.tokenRequest, w) = none ∧
        (c.fetchToken watch).history World.answer w = [(.send c.tokenRequest, w)] ∧
        w.perform (c.fetchToken watch) = (.error e, (w.send c.tokenRequest).2)) ∨
      ∃ i, issue? c (.send c.tokenRequest, w) = some i ∧
        i.time = (w.send c.tokenRequest).2.clock ∧
        (c.fetchToken watch).history World.answer w =
          [(.send c.tokenRequest, w), (.now, (w.send c.tokenRequest).2),
            (.keep i.stored, (w.send c.tokenRequest).2)] ∧
        w.perform (c.fetchToken watch) =
          (.ok i.token.token, i.keptIn (w.send c.tokenRequest).2) := by
  obtain ⟨reply, v, hs⟩ : ∃ reply v, w.send c.tokenRequest = (reply, v) := ⟨_, _, rfl⟩
  have asked : World.answer (.send c.tokenRequest) w = (reply, v) := hs
  have issued : issue? c (.send c.tokenRequest, w) =
      match reply with
      | .answered response =>
        match successDocument .atRequests IssuedToken.read AdminClient.tokenOperation response with
        | .ok token => some ⟨token, v.clock⟩
        | .error _ => none
      | _ => none := by
    simp only [issue?, if_true, hs]
    cases reply <;> rfl
  rw [hs, issued]
  unfold AdminClient.fetchToken exchange Operating.andThen Dialog.bind World.perform
  rw [Dialog.history_ask_of_eq _ asked, Dialog.run_ask_of_eq _ asked]
  cases reply with
  | answered response =>
    dsimp only [Dialog.bind]
    cases hd : successDocument watch IssuedToken.read AdminClient.tokenOperation response with
    | error e =>
      have none_issued : ∀ token, successDocument .atRequests IssuedToken.read
          AdminClient.tokenOperation response ≠ .ok token := by
        intro token ht
        cases hd.symm.trans ((successDocument_eq_ok_congr watch).mp ht)
      refine .inl ⟨e, ?_, rfl, rfl⟩
      split
      · exact absurd ‹_› (none_issued _)
      · rfl
    | ok token =>
      refine .inr ⟨⟨token, v.clock⟩, ?_, rfl, rfl, rfl⟩
      rw [(successDocument_eq_ok_congr watch).mpr hd]
  | failed cause => exact .inl ⟨_, rfl, rfl, rfl⟩
  | cancelled => exact .inl ⟨_, rfl, rfl, rfl⟩

/-- The moments in which a search looks at what is kept. -/
def looking (watch : Watch) (w : World) : List Moment :=
  (.turn watch, w) :: (.stored, w) :: (w.token.map fun _ => (Question.now, w)).toList

/-- **A search for an admin token**: it does not begin under a cancelled context that is watched
everywhere; a kept token is used while it is usable; and otherwise the provider is asked, which
issues a token or not. -/
inductive Searches (c : AdminClient) (watch : Watch) (w : World) :
    List Moment → Except AdminError String → World → Prop
  | turnedAway (cancelled : ¬ w.Admits watch) :
      Searches c watch w [(.turn watch, w)] (.error (.cancelled AdminClient.tokenOperation)) w
  | kept {token : StoredToken} (admits : w.Admits watch) (stored : w.token = some token)
      (usable : token.isUsableAt w.clock = true) :
      Searches c watch w (looking watch w ++ [(.endTurn, w)]) (.ok token.value) w
  | failed {e : AdminError} {after : World} (admits : w.Admits watch) (without : w.IsWithoutToken)
      (nothing : issue? c (.send c.tokenRequest, w) = none)
      (sends : (w.send c.tokenRequest).2 = after) :
      Searches c watch w (looking watch w ++ [(.send c.tokenRequest, w), (.endTurn, after)])
        (.error e) after
  | issued {i : Issue} {after : World} (admits : w.Admits watch) (without : w.IsWithoutToken)
      (issues : issue? c (.send c.tokenRequest, w) = some i)
      (sends : (w.send c.tokenRequest).2 = after) (time : i.time = after.clock) :
      Searches c watch w
        (looking watch w ++ [(.send c.tokenRequest, w), (.now, after), (.keep i.stored, after),
          (.endTurn, i.keptIn after)])
        (.ok i.token.token) (i.keptIn after)

theorem currentToken_moments (c : AdminClient) (watch : Watch) (w : World) :
    (∃ token, w.token = some token ∧ token.isUsableAt w.clock = true ∧
        (c.currentToken watch).history World.answer w =
          (.stored, w) :: (w.token.map fun _ => (Question.now, w)).toList ∧
        w.perform (c.currentToken watch) = (.ok token.value, w)) ∨
      w.IsWithoutToken ∧
        (c.currentToken watch).history World.answer w =
          ((.stored, w) :: (w.token.map fun _ => (Question.now, w)).toList) ++
            (c.fetchToken watch).history World.answer w ∧
        w.perform (c.currentToken watch) = w.perform (c.fetchToken watch) := by
  have asked : World.answer .stored w = (w.token, w) := rfl
  have clock : World.answer .now w = (w.clock, w) := rfl
  unfold AdminClient.currentToken World.perform
  rw [Dialog.history_ask_of_eq _ asked, Dialog.run_ask_of_eq _ asked]
  rcases w.usable_or_without with ⟨token, stored, usable⟩ | without
  · refine .inl ⟨token, stored, usable, ?_⟩
    rw [stored, Dialog.history_ask_of_eq _ clock, Dialog.run_ask_of_eq _ clock, if_pos usable]
    exact ⟨rfl, rfl⟩
  · refine .inr ⟨without, ?_⟩
    cases stored : w.token with
    | none => exact ⟨rfl, rfl⟩
    | some token =>
      rw [Dialog.history_ask_of_eq _ clock, Dialog.run_ask_of_eq _ clock,
        if_neg (Bool.not_eq_true _ ▸ without token stored)]
      exact ⟨rfl, rfl⟩

theorem endTurn_moments {d : Admin.Operating String} {result : Except AdminError String}
    (run : w.perform d = (result, v)) :
    Dialog.history World.answer
          (Dialog.bind d fun outcome => .ask .endTurn fun _ => .done outcome) w =
        d.history World.answer w ++ [(.endTurn, v)] ∧
      Dialog.run World.answer
          (Dialog.bind d fun outcome => .ask .endTurn fun _ => .done outcome) w = (result, v) := by
  constructor
  · refine (Dialog.history_bind World.answer d _ w).trans ?_
    rw [show d.run World.answer w = (result, v) from run]
    rfl
  · refine (World.perform_bind w d _).trans ?_
    rw [run]
    rfl

/-- **Every search is one of these.** -/
theorem accessToken_searches (c : AdminClient) (watch : Watch) (w : World) :
    Searches c watch w ((c.accessToken watch).history World.answer w)
      (w.perform (c.accessToken watch)).1 (w.perform (c.accessToken watch)).2 := by
  unfold AdminClient.accessToken World.perform
  by_cases admits : w.Admits watch
  swap
  · obtain ⟨rfl, hc⟩ := Classical.not_imp.mp admits
    rw [Bool.not_eq_false] at hc
    have asked : World.answer (.turn .everywhere) w = (false, w) := by simp [World.answer, hc]
    rw [Dialog.history_ask_of_eq _ asked, Dialog.run_ask_of_eq _ asked]
    exact .turnedAway admits
  have asked : World.answer (.turn watch) w = (true, w) := by
    cases watch with
    | atRequests => rfl
    | everywhere => simp [World.answer, admits rfl]
  rw [Dialog.history_ask_of_eq _ asked, Dialog.run_ask_of_eq _ asked]
  rw [if_pos rfl]
  rcases currentToken_moments c watch w with
    ⟨token, stored, usable, history, run⟩ | ⟨without, history, run⟩
  · obtain ⟨history', run'⟩ := endTurn_moments run
    rw [history', history, run']
    exact .kept admits stored usable
  rcases fetchToken_moments c watch w with
    ⟨e, nothing, asks, gives⟩ | ⟨i, issues, time, asks, gives⟩
  · obtain ⟨history', run'⟩ := endTurn_moments (run.trans gives)
    rw [history', history, asks, run', List.append_assoc]
    exact .failed admits without nothing rfl
  · obtain ⟨history', run'⟩ := endTurn_moments (run.trans gives)
    rw [history', history, asks, run', List.append_assoc]
    exact .issued admits without issues rfl time

/-! ### What a search asks and keeps -/

theorem isWithoutToken_iff :
    w.IsWithoutToken ↔ w.token = none ∨
      ∃ t, w.token = some t ∧ t.expiresAt.nanoseconds ≤ w.clock.nanoseconds := by
  unfold World.IsWithoutToken StoredToken.isUsableAt Instant.isAfter
  cases w.token <;> simp

theorem exists_latest_of_kept (h : IsKept c past w) {t : StoredToken} (stored : w.token = some t) :
    ∃ i, latest c past = some i ∧ i.IsKeptAs t := by
  have kept := h.kept
  rw [stored] at kept
  cases hl : latest c past with
  | none =>
    rw [hl] at kept
    cases kept
  | some i =>
    rw [hl] at kept
    cases kept with
    | some kept => exact ⟨i, rfl, kept⟩

theorem issue?_looking : ∀ m ∈ looking watch w, issue? c m = none := by
  unfold looking
  cases w.token <;> simp [issue?]

section search

variable {result : Except AdminError String}

theorem Searches.exists_turn (h : Searches c watch w here result v) :
    ∃ rest, here = (.turn watch, w) :: rest ∧ ∀ watch' u, (.turn watch', u) ∉ rest := by
  have looks : ∃ rest, looking watch w = (.turn watch, w) :: rest ∧
      ∀ watch' u, (.turn watch', u) ∉ rest := by
    refine ⟨_, rfl, fun watch' u => ?_⟩
    cases w.token <;> simp
  obtain ⟨rest, looks, no_turn⟩ := looks
  cases h with
  | turnedAway cancelled => exact ⟨[], rfl, fun _ _ => List.not_mem_nil⟩
  | _ =>
    rw [looks]
    refine ⟨_, rfl, fun watch' u => ?_⟩
    simp [no_turn]

theorem Searches.eq_tokenRequest (h : Searches c watch w here result v)
    {prepared : AdminClient.Prepared} {u : World} (hm : (.send prepared, u) ∈ here) :
    prepared = c.tokenRequest ∧ u = w ∧ w.IsWithoutToken := by
  have looks : (.send prepared, u) ∉ looking watch w := by
    unfold looking
    cases w.token <;> simp
  have asks : ∀ later : List Moment, (.send prepared, u) ∉ later →
      (.send prepared, u) ∈ looking watch w ++ (.send c.tokenRequest, w) :: later →
        prepared = c.tokenRequest ∧ u = w := by
    intro later no_later hm
    rcases List.mem_append.mp hm with hm | hm
    · exact absurd hm looks
    rcases List.mem_cons.mp hm with same | hm
    · cases same
      exact ⟨rfl, rfl⟩
    · exact absurd hm no_later
  cases h with
  | turnedAway cancelled => simp at hm
  | kept admits stored usable => simp [looks] at hm
  | failed admits without nothing sends =>
    obtain ⟨same, here⟩ := asks _ (by simp) hm
    exact ⟨same, here, without⟩
  | issued admits without issues sends time =>
    obtain ⟨same, here⟩ := asks _ (by simp) hm
    exact ⟨same, here, without⟩

/-- **Under a context that is not cancelled the provider is asked exactly when no token is kept or
the kept one has expired.** -/
theorem Searches.asks_iff (h : Searches c watch w here result v) (live : w.cancelled = false) :
    (.send c.tokenRequest, w) ∈ here ↔ w.token = none ∨
      ∃ t, w.token = some t ∧ t.expiresAt.nanoseconds ≤ w.clock.nanoseconds := by
  rw [← isWithoutToken_iff]
  constructor
  · exact fun hm => (h.eq_tokenRequest hm).2.2
  · intro without
    cases h with
    | turnedAway cancelled => exact absurd (fun _ => live) cancelled
    | kept admits stored usable => cases usable.symm.trans (without _ stored)
    | failed => simp
    | issued => simp

/-- **Over a base address of HTTP a search that asks reaches the provider**: the request that asks
for an admin token is its one contact, and without it there is none. -/
theorem Searches.mem_contacts_iff (h : Searches c watch w here result v)
    {request : Request} (made : c.tokenRequest = .ok request) (live : w.cancelled = false)
    (contact : Contact) :
    contact ∈ here.filterMap World.contact? ↔
      (.send c.tokenRequest, w) ∈ here ∧ contact = ⟨request, w.next.arrival⟩ := by
  have sent : World.contact? (.send c.tokenRequest, w) = some ⟨request, w.next.arrival⟩ := by
    rw [made, World.contact?, live]
    rfl
  rw [List.mem_filterMap]
  constructor
  · rintro ⟨⟨question, u⟩, asked, seen⟩
    cases question with
    | send prepared =>
      obtain ⟨rfl, rfl, -⟩ := h.eq_tokenRequest asked
      exact ⟨asked, Option.some.inj (seen.symm.trans sent)⟩
    | _ => cases seen
  · rintro ⟨asked, rfl⟩
    exact ⟨_, asked, sent⟩

/-- **A search fails exactly if it is turned away, or the provider is asked and issues nothing.** -/
theorem Searches.error_iff (h : Searches c watch w here result v) :
    (∃ e, result = .error e) ↔ ¬ w.Admits watch ∨
      (.send c.tokenRequest, w) ∈ here ∧ issue? c (.send c.tokenRequest, w) = none := by
  have without : (.send c.tokenRequest, w) ∈ here → w.IsWithoutToken :=
    fun asked => (h.eq_tokenRequest asked).2.2
  cases h with
  | turnedAway cancelled => exact ⟨fun _ => .inl cancelled, fun _ => ⟨_, rfl⟩⟩
  | kept admits stored usable =>
    refine ⟨(fun ⟨_, he⟩ => nomatch he), ?_⟩
    rintro (cancelled | ⟨asked, -⟩)
    · exact absurd admits cancelled
    · cases usable.symm.trans (without asked _ stored)
  | failed admits _ nothing => exact ⟨fun _ => .inr ⟨by simp, nothing⟩, fun _ => ⟨_, rfl⟩⟩
  | issued admits _ issues =>
    refine ⟨(fun ⟨_, he⟩ => nomatch he), ?_⟩
    rintro (cancelled | ⟨-, nothing⟩)
    · exact absurd admits cancelled
    · cases nothing.symm.trans issues

theorem Searches.usable_of_ok {token : String} (h : Searches c watch w here result v)
    (gives : result = .ok token) (silent : (.send c.tokenRequest, w) ∉ here) :
    ∃ t, w.token = some t ∧ t.value = token ∧ t.isUsableAt w.clock = true := by
  cases h with
  | turnedAway | failed => cases gives
  | kept admits stored usable => exact ⟨_, stored, Except.ok.inj gives, usable⟩
  | issued => exact absurd (by simp) silent

/-- **A search that fails keeps what was kept.** -/
theorem Searches.token_of_error {e : AdminError} (h : Searches c watch w here result v)
    (gives : result = .error e) : v.token = w.token := by
  cases h with
  | kept | issued => cases gives
  | turnedAway cancelled => rfl
  | failed admits without nothing sends => exact sends ▸ (World.send_keeps _ w).1

/-- **After a search what is kept is the last token issued.** -/
theorem Searches.isKept (h : Searches c watch w here result v) (kept : IsKept c past w) :
    IsKept c (past ++ here) v := by
  cases h with
  | turnedAway cancelled => exact kept.append (by simp [issue?])
  | kept admits stored usable =>
    refine kept.append fun m hm => ?_
    rcases List.mem_append.mp hm with hm | hm
    · exact issue?_looking m hm
    · rw [List.mem_singleton.mp hm]
      rfl
  | failed admits without nothing sends =>
    rw [← sends]
    refine (kept.send _).append fun m hm => ?_
    rcases List.mem_append.mp hm with hm | hm
    · exact issue?_looking m hm
    · rcases List.mem_cons.mp hm with rfl | hm
      · exact nothing
      · rw [List.mem_singleton.mp hm]
        rfl
  | @issued i after admits without issues sends time =>
    -- all before the reply is past, and nothing after it issues a token
    have last : latest c (past ++ (looking watch w ++ [(.send c.tokenRequest, w), (.now, after),
        (.keep i.stored, after), (.endTurn, i.keptIn after)])) = some i := by
      have later := latest_append_of_issue (past ++ looking watch w) issues
      have split : past ++ (looking watch w ++ [(.send c.tokenRequest, w), (.now, after),
            (.keep i.stored, after), (.endTurn, i.keptIn after)]) =
          (past ++ looking watch w ++ [(.send c.tokenRequest, w)]) ++ [(.now, after),
            (.keep i.stored, after), (.endTurn, i.keptIn after)] := by simp
      rw [split, latest_append_of_silent _ (by simp [issue?]), later]
    refine ⟨?_, fun j hj => ?_⟩
    · rw [last]
      exact .some i.isKeptAs_stored
    · rw [last] at hj
      obtain rfl := Option.some.inj hj
      exact time ▸ Int.le_refl _

/-- **A search that succeeds gives the last token issued.** -/
theorem Searches.latest_of_ok {token : String} (h : Searches c watch w here result v)
    (kept : IsKept c past w) (gives : result = .ok token) :
    ∃ i, latest c (past ++ here) = some i ∧ i.token.token = token := by
  obtain ⟨t, stored, value⟩ : ∃ t, v.token = some t ∧ t.value = token := by
    cases h with
    | turnedAway | failed => cases gives
    | kept admits stored usable => exact ⟨_, stored, Except.ok.inj gives⟩
    | issued admits without issues sends time => exact ⟨_, rfl, Except.ok.inj gives⟩
  obtain ⟨i, last, asKept⟩ := exists_latest_of_kept (h.isKept kept) stored
  exact ⟨i, last, asKept.value.symm.trans value⟩

end search

end RealmKeeper.Provider
