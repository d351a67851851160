import TaskConsole.Proofs.Window.Room

/-! No overflow along a run whose sizes are at most `safeSize` (`perform_fits_along_runs`):
`Window.Budgeted` bounds the scroll offset, which splices move and nothing clamps. -/

namespace TaskConsole

/-- Settings within `safeSize`: the line height and the cap of the prefetch
batch, with the first batch no larger than the cap. -/
structure WindowConfig.Fits (c : WindowConfig) : Prop where
  lineHeight_le : c.lineHeight ≤ safeSize
  maxBatch_le : c.maxBatch ≤ safeSize
  initial_le : c.initialBatch ≤ c.maxBatch

/-- A configuration the window accepts, with line height and batch cap within
`safeSize`, fits. -/
theorem WindowConfig.fits_of_check {c : WindowConfig} (hc : c.check = none)
    (hlh : c.lineHeight ≤ safeSize) (hmax : c.maxBatch ≤ safeSize) : c.Fits :=
  ⟨hlh, hmax, (WindowConfig.sizes_of_check hc).initial_le⟩

namespace Window

variable {w w' : Window}

/-- How many lines a splice of the staged lines may add: their distinct numbers. -/
def stagedCount (w : Window) : Nat :=
  match w.pending with
  | some p => (p.lines.map (·.number)).eraseDups.length
  | none => 0

/-- The lowest line loaded or staged; the largest word when there is none. -/
def floor (w : Window) : Nat :=
  match w.pending with
  | some p => min w.loadedStart p.range.first
  | none => w.loadedStart

/-- The scroll offset, with the height of the staged lines reserved, is within the
height of `safeSize + 1` lines and of the lines from the floor up to `safeSize`. -/
def Budgeted (w : Window) : Prop :=
  w.scroll + w.stagedCount * w.config.lineHeight ≤
    (safeSize + 1) * w.config.lineHeight + (safeSize + 1 - w.floor) * w.config.lineHeight

/-- A tail or range load is in flight and nothing is staged. -/
def PrimaryLoading (w : Window) : Prop :=
  (∃ t, w.inFlight = some t ∧ t.kind ≠ .prefetch) ∧ w.pending = none

theorem stagedCount_of_none (h : w.pending = none) : w.stagedCount = 0 := by
  unfold stagedCount
  rw [h]

theorem stagedCount_of_some {p : StagedLines} (h : w.pending = some p) :
    w.stagedCount = (p.lines.map (·.number)).eraseDups.length := by
  unfold stagedCount
  rw [h]

theorem floor_of_none (h : w.pending = none) : w.floor = w.loadedStart := by
  unfold floor
  rw [h]

theorem floor_of_some {p : StagedLines} (h : w.pending = some p) :
    w.floor = min w.loadedStart p.range.first := by
  unfold floor
  rw [h]

theorem loadedStart_of_some {r : LineRange} (h : w.loaded = some r) : w.loadedStart = r.first := by
  unfold loadedStart
  rw [h]

theorem loadedStart_of_none (h : w.loaded = none) : w.loadedStart = wordMax := by
  unfold loadedStart
  rw [h]

/-- With the same staged lines, a loaded range reaching further down lowers the
floor. -/
theorem floor_le_of (hp : w'.pending = w.pending) (hl : w'.loadedStart ≤ w.loadedStart) :
    w'.floor ≤ w.floor := by
  unfold floor
  rw [hp]
  split <;> omega

/-- Staged lines numbered from their first up to `safeSize` are no more than the
numbers from the floor up to `safeSize`. -/
theorem stagedCount_le
    (hst : ∀ p, w.pending = some p → ∀ l ∈ p.lines, p.range.first ≤ l.number ∧ l.number ≤ safeSize) :
    w.stagedCount ≤ safeSize + 1 - w.floor := by
  cases hp : w.pending with
  | none =>
    rw [stagedCount_of_none hp]
    exact Nat.zero_le _
  | some p =>
    rw [stagedCount_of_some hp, floor_of_some hp]
    have hlen := length_le_of_nodup_bounds (eraseDups_nodup (p.lines.map (·.number)))
      (a := p.range.first) (b := safeSize + 1) fun k hk => by
        obtain ⟨l, hl, rfl⟩ := List.mem_map.mp (List.mem_eraseDups.mp hk)
        have := hst p hp l hl
        omega
    omega

theorem Budgeted.scroll_le (hb : w.Budgeted) (hlh : w.config.lineHeight ≤ safeSize) :
    w.scroll ≤ scrollCap := by
  have h₁ : (safeSize + 1) * w.config.lineHeight ≤ (safeSize + 1) * safeSize :=
    Nat.mul_le_mul_left _ hlh
  have h₂ : (safeSize + 1 - w.floor) * w.config.lineHeight ≤ (safeSize + 1) * safeSize :=
    Nat.mul_le_mul (Nat.sub_le _ _) hlh
  unfold Budgeted at hb
  rw [scrollCap_eq]
  omega

/-- A view within content numbered up to `safeSize` keeps the budget. -/
theorem budgeted_of_clamped (hs : w.scroll ≤ w.display.size * w.config.lineHeight)
    (hd : ∀ l ∈ w.display.lines, l.number ≤ safeSize)
    (hst : ∀ p, w.pending = some p → ∀ l ∈ p.lines, p.range.first ≤ l.number ∧ l.number ≤ safeSize) :
    w.Budgeted := by
  have h₁ : w.display.size * w.config.lineHeight ≤ (safeSize + 1) * w.config.lineHeight :=
    Nat.mul_le_mul_right _ (LineMap.size_le_of_numbers_le hd)
  have h₂ : w.stagedCount * w.config.lineHeight ≤ (safeSize + 1 - w.floor) * w.config.lineHeight :=
    Nat.mul_le_mul_right _ (stagedCount_le hst)
  unfold Budgeted
  omega

/-- The budget holds on when the view moves up and the floor down, with the same
staged lines and line height. -/
theorem Budgeted.of_frame (hb : w.Budgeted) (hs : w'.scroll ≤ w.scroll)
    (hlh : w'.config.lineHeight = w.config.lineHeight) (hp : w'.pending = w.pending)
    (hfl : w'.floor ≤ w.floor) : w'.Budgeted := by
  have hcount : w'.stagedCount = w.stagedCount := by
    unfold stagedCount
    rw [hp]
  have h : (safeSize + 1 - w.floor) * w.config.lineHeight ≤
      (safeSize + 1 - w'.floor) * w.config.lineHeight :=
    Nat.mul_le_mul_right _ (Nat.sub_le_sub_left hfl _)
  unfold Budgeted at hb ⊢
  rw [hcount, hlh]
  omega

/-- Staging lines below the loaded range keeps the budget: the height reserved
for them is taken from the height of the lines above the loaded range. -/
theorem Budgeted.stage (hb : w.Budgeted) (hnone : w.pending = none) {p : StagedLines}
    (hp : w'.pending = some p) (hs : w'.scroll = w.scroll)
    (hlh : w'.config.lineHeight = w.config.lineHeight) (hstart : w'.loadedStart = w.loadedStart)
    (hlines : ∀ l ∈ p.lines,
      p.range.first ≤ l.number ∧ l.number ≤ safeSize ∧ l.number < w.loadedStart) :
    w'.Budgeted := by
  have hnd := eraseDups_nodup (p.lines.map (·.number))
  have hmem : ∀ k ∈ (p.lines.map (·.number)).eraseDups,
      p.range.first ≤ k ∧ k ≤ safeSize ∧ k < w.loadedStart := fun k hk => by
    obtain ⟨l, hl, rfl⟩ := List.mem_map.mp (List.mem_eraseDups.mp hk)
    exact hlines l hl
  -- the staged numbers lie below the loaded range and up to `safeSize`
  have h₁ := length_le_of_nodup_bounds hnd (a := p.range.first) (b := safeSize + 1) fun k hk =>
    ⟨(hmem k hk).1, Nat.lt_succ_of_le (hmem k hk).2.1⟩
  have h₂ := length_le_of_nodup_bounds hnd (a := p.range.first) (b := w.loadedStart) fun k hk =>
    ⟨(hmem k hk).1, (hmem k hk).2.2⟩
  have hcount : (safeSize + 1 - w.loadedStart) + (p.lines.map (·.number)).eraseDups.length ≤
      safeSize + 1 - min w.loadedStart p.range.first := by
    omega
  have hmul := Nat.mul_le_mul_right w.config.lineHeight hcount
  rw [Nat.add_mul] at hmul
  unfold Budgeted at hb ⊢
  rw [stagedCount_of_none hnone, floor_of_none hnone] at hb
  rw [stagedCount_of_some hp, floor_of_some hp, hs, hlh, hstart]
  omega

/-- A splice keeps the budget: the height it moves the view down by was reserved
for the staged lines, and the floor stays. -/
theorem Budgeted.commit (hb : w.Budgeted) {p : StagedLines} (hp : w.pending = some p)
    {r : LineRange} (hr : w.loaded = some r) (hnone : w'.pending = none)
    (hstart : w'.loadedStart = min r.first p.range.first)
    (hlh : w'.config.lineHeight = w.config.lineHeight)
    (hs : w'.scroll = w.scroll + (w.display.added p.lines).length * w.config.lineHeight) :
    w'.Budgeted := by
  have hadded : (w.display.added p.lines).length * w.config.lineHeight ≤
      (p.lines.map (·.number)).eraseDups.length * w.config.lineHeight :=
    Nat.mul_le_mul_right _ (List.length_filter_le _ _)
  unfold Budgeted at hb ⊢
  rw [stagedCount_of_some hp, floor_of_some hp, loadedStart_of_some hr] at hb
  rw [stagedCount_of_none hnone, floor_of_none hnone, hstart, hs, hlh]
  omega

/-- The settings, batch, viewport and line numbers of a window are within
`safeSize`, and staged lines lie between their first and `safeSize`. -/
structure Small (w : Window) : Prop where
  config : w.config.Fits
  batch_le : w.batchSize ≤ w.config.maxBatch
  height_le : w.viewportHeight ≤ safeSize * safeSize
  display_le : ∀ l ∈ w.display.lines, l.number ≤ safeSize
  buffer_le : ∀ l ∈ w.buffer, l.number ≤ safeSize
  staged_le : ∀ p, w.pending = some p →
    ∀ l ∈ p.lines, p.range.first ≤ l.number ∧ l.number ≤ safeSize

/-- A small window whose scroll offset keeps the budget, or is within `scrollCap`
while a primary load runs with nothing staged. -/
structure Sized (w : Window) : Prop extends w.Small where
  staged_idle : ∀ p, w.pending = some p → w.inFlight = none ∧ w.loaded ≠ none
  prefetch_loaded : ∀ t, w.inFlight = some t → t.kind = .prefetch → w.loaded ≠ none
  budget : w.Budgeted ∨ w.PrimaryLoading ∧ w.scroll ≤ scrollCap

theorem Sized.scroll_le (hs : w.Sized) : w.scroll ≤ scrollCap := by
  rcases hs.budget with hb | ⟨-, h⟩
  · exact hb.scroll_le hs.config.lineHeight_le
  · exact h

theorem Small.roomy (hs : w.Small) (hscroll : w.scroll ≤ scrollCap) : w.Roomy := by
  refine ⟨hs.config.lineHeight_le, hs.display_le, hs.height_le, ?_⟩
  rw [roomCap_eq]
  omega

/-- A small window scrolled at most `scrollCap` performs every operation whose
arguments fit. -/
theorem Small.perform_ok (hs : w.Small) (hscroll : w.scroll ≤ scrollCap) {op : WindowOp}
    (hop : op.Fits) : Returns (w.perform op) fun _ => True :=
  (hs.roomy hscroll).perform_ok hscroll (Nat.le_trans hs.batch_le hs.config.maxBatch_le)
    hs.buffer_le (fun p hp l hl => (hs.staged_le p hp l hl).2) hop

/-- A window cleared of its lines and staged lines, at the top, with the first
batch and no prefetch in flight, is sized when its settings and viewport are a
small window's: so is one reset or just opened. -/
theorem Small.cleared (hs : w.Small) {v : Window} (hc : v.config = w.config)
    (hbatch : v.batchSize = w.config.initialBatch) (hh : v.viewportHeight = w.viewportHeight)
    (hd : v.display = LineMap.empty) (hbuf : v.buffer = []) (hp : v.pending = none)
    (hscroll : v.scroll = 0) (hflight : ∀ t, v.inFlight = some t → t.kind ≠ .prefetch) :
    v.Sized where
  config := hc ▸ hs.config
  batch_le := by
    rw [hbatch, hc]
    exact hs.config.initial_le
  height_le := hh ▸ hs.height_le
  display_le := fun _ hl => by
    rw [hd] at hl
    cases hl
  buffer_le := fun _ hl => by
    rw [hbuf] at hl
    cases hl
  staged_le := fun _ h => by cases hp.symm.trans h
  staged_idle := fun _ h => by cases hp.symm.trans h
  prefetch_loaded := fun t ht hk => absurd hk (hflight t ht)
  budget := .inl (budgeted_of_clamped (by rw [hscroll]; exact Nat.zero_le _)
    (fun _ hl => by rw [hd] at hl; cases hl) fun _ h => by cases hp.symm.trans h)

theorem sized_new {c : WindowConfig} (hc : c.Fits) : (Window.new c).Sized where
  config := hc
  batch_le := hc.initial_le
  height_le := Nat.zero_le _
  display_le := fun _ hl => by cases hl
  buffer_le := fun _ hl => by cases hl
  staged_le := fun _ h => by cases h
  staged_idle := fun _ h => by cases h
  prefetch_loaded := fun _ h => by cases h
  budget := .inl (budgeted_of_clamped (Nat.zero_le _) (fun _ hl => by cases hl) fun _ h => by cases h)

theorem Sized.reset (hs : w.Sized) : w.reset.Sized :=
  hs.toSmall.cleared rfl rfl rfl rfl rfl rfl rfl fun _ h => by cases h

theorem Sized.openTask (hs : w.Sized) (task : Nat) : (w.openTask task).1.Sized :=
  hs.toSmall.cleared rfl rfl rfl rfl rfl rfl rfl fun _ h => by
    cases h
    simp

/-- A range jump drops what was staged and loads with a range in flight. -/
theorem Sized.loadRange (hs : w.Sized) {first last : Nat} {t? : Option LoadTicket}
    (h : w.loadRange first last = .ok (w', t?)) : w'.Sized := by
  rcases loadRange_eq_ok h with hp | ⟨task, -, -, hp⟩
  · cases hp
    exact hs
  · cases hp
    exact { hs with
      batch_le := hs.config.initial_le
      staged_le := fun _ h => by cases h
      staged_idle := fun _ h => by cases h
      prefetch_loaded := fun _ h hk => by
        cases h
        cases hk
      budget := .inr ⟨⟨⟨_, rfl, by simp⟩, rfl⟩, hs.scroll_le⟩ }

/-- A prefetch is issued with nothing in flight or staged and a range loaded. -/
theorem Sized.prefetchAbove (hs : w.Sized) {position height : Nat} {t? : Option LoadTicket}
    (h : w.prefetchAbove position height = (w', t?)) : w'.Sized := by
  rcases prefetchAbove_eq h with ⟨-, rfl⟩ |
    ⟨task, loaded, -, hloaded, -, -, hflight, hpending, -, rfl, rfl⟩
  · exact hs
  refine { hs with
    staged_idle := fun p hp => by
      dsimp only at hp
      rw [hpending] at hp
      cases hp
    prefetch_loaded := fun _ _ _ => by simp [hloaded]
    budget := ?_ }
  rcases hs.budget with hb | ⟨⟨⟨t, ht, -⟩, -⟩, -⟩
  · exact .inl (hb.of_frame (Nat.le_refl _) rfl rfl (Nat.le_refl _))
  · cases hflight.symm.trans ht

/-- A splice keeps the window sized: its lines are numbered up to `safeSize`,
and it moves the view down by no more than the budget reserved. -/
theorem Sized.commitPrefetch (hs : w.Sized) {b : Bool} (h : w.commitPrefetch = .ok (w', b)) :
    w'.Sized := by
  obtain ⟨hroom, -, hshift⟩ := ((hs.roomy hs.scroll_le).commitPrefetch_ok hs.scroll_le
    fun p hp l hl => (hs.staged_le p hp l hl).2).elim h
  rcases commitPrefetch_eq h with ⟨-, rfl, -⟩ | ⟨staged, d, s, hpending, -, rfl, -, -⟩
  · exact hs
  obtain ⟨-, hloaded⟩ := hs.staged_idle staged hpending
  obtain ⟨r, hr⟩ := Option.ne_none_iff_exists'.mp hloaded
  refine { hs with
    display_le := hroom.numbers_le
    staged_le := fun _ h => by cases h
    staged_idle := fun _ h => by cases h
    prefetch_loaded := fun _ _ _ => by simp [hr]
    budget := .inl ?_ }
  rcases hs.budget with hb | ⟨⟨-, hnone⟩, -⟩
  · exact hb.commit hpending hr rfl (by simp [loadedStart, hr]) rfl (hshift staged hpending)
  · cases hnone.symm.trans hpending

/-- A flush leaves the view within content numbered up to `safeSize`. -/
theorem Sized.flush (hs : w.Sized) {r : FlushReport} (h : w.flush = .ok (w', r)) : w'.Sized := by
  obtain ⟨hroom, -, hclamp⟩ := ((hs.roomy hs.scroll_le).flush_ok hs.buffer_le).elim h
  rcases flush_eq h with ⟨-, rfl⟩ | ⟨d, s, hne, rfl, -, -⟩
  · exact hs
  · exact { hs with
      display_le := hroom.numbers_le
      buffer_le := fun _ hl => by cases hl
      budget := .inl (budgeted_of_clamped (hclamp hne) hroom.numbers_le hs.staged_le) }

/-- A streamed line numbered up to `safeSize` lowers the floor at most, and a
full buffer is flushed. -/
theorem Sized.appendStreamed (hs : w.Sized) {task : Nat} {l : LogLine} {b : Bool}
    (hl : l.number ≤ safeSize) (h : w.appendStreamed task l = .ok (w', b)) : w'.Sized := by
  rcases appendStreamed_eq h with ⟨-, rfl⟩ | ⟨-, -, first, w₁, hfirst, hw₁, hw'⟩
  · exact hs
  -- the loaded range now starts at the line or below where it started
  have hstart : w₁.loadedStart ≤ w.loadedStart := by
    subst hw₁
    rcases hfirst with ⟨hnone, rfl⟩ | ⟨r, hr, rfl⟩
    · have := safeSize_lt_wordMax
      show l.number ≤ w.loadedStart
      rw [loadedStart_of_none hnone]
      omega
    · show min r.first l.number ≤ w.loadedStart
      rw [loadedStart_of_some hr]
      exact Nat.min_le_left _ _
  have hs₁ : w₁.Sized := by
    subst hw₁
    refine { hs with
      buffer_le := fun l' hl' => ?_
      staged_idle := fun p hp => ⟨(hs.staged_idle p hp).1, by simp⟩
      prefetch_loaded := fun _ _ _ => by simp
      budget := ?_ }
    · rcases List.mem_append.mp hl' with hl' | hl'
      · exact hs.buffer_le l' hl'
      · rw [List.mem_singleton.mp hl']
        exact hl
    · rcases hs.budget with hb | hprim
      · exact .inl (hb.of_frame (Nat.le_refl _) rfl rfl (floor_le_of rfl hstart))
      · exact .inr hprim
  rcases hw' with ⟨-, rfl⟩ | ⟨-, r, hflush⟩
  · exact hs₁
  · exact hs₁.flush hflush

theorem Sized.onScroll (hs : w.Sized) {t? : Option LoadTicket} (h : w.onScroll = .ok (w', t?)) :
    w'.Sized := by
  obtain ⟨w₁, hp, ⟨-, -, b, hcommit⟩ | ⟨-, rfl⟩⟩ := onScroll_eq h
  · exact (hs.prefetchAbove hp).commitPrefetch hcommit
  · exact hs.prefetchAbove hp

/-- A prefetch result of ascending lines numbered up to `safeSize`, taken with
nothing in flight or staged and a range loaded, stages the lines below the range
within the budget. -/
theorem Small.applyPrefetch (hs : w.Small) (hb : w.Budgeted) (hpending : w.pending = none)
    (hflight : w.inFlight = none) (hloaded : w.loaded ≠ none) {result : Except LoadError LogChunk}
    (hres : ∀ chunk, result = .ok chunk →
      Ascending chunk.lines ∧ ∀ l ∈ chunk.lines, l.number ≤ safeSize)
    {o : LoadOutcome} (h : w.applyPrefetch result = .ok (w', o)) : w'.Sized := by
  have hsized : w.Sized := ⟨hs, fun p hp => (by cases hpending.symm.trans hp),
    fun t ht => (by cases hflight.symm.trans ht), .inl hb⟩
  rcases applyPrefetch_eq h with ⟨e, -, -, rfl⟩ |
    ⟨chunk, rfl, -, ⟨-, rfl⟩ | ⟨lo, hi, w₁, hlo, -, hw₁, hw'⟩⟩
  · exact hsized
  · exact { hsized with }
  obtain ⟨hasc, hnum⟩ := hres chunk rfl
  -- the staged lines: from the first of them, up to `safeSize`, below the loaded range
  have hstaged : ∀ l ∈ chunk.lines.filter (·.number < w.loadedStart),
      lo.number ≤ l.number ∧ l.number ≤ safeSize ∧ l.number < w.loadedStart := by
    intro l hl
    have hl' := List.mem_filter.mp hl
    exact ⟨Ascending.head_le (List.Pairwise.filter _ hasc) hlo hl, hnum l hl'.1,
      by simpa using hl'.2⟩
  have hs₁ : w₁.Sized := by
    subst hw₁
    exact { hsized with
      batch_le := Nat.min_le_right _ _
      staged_le := fun p hp l hl => by
        cases hp
        exact ⟨(hstaged l hl).1, (hstaged l hl).2.1⟩
      staged_idle := fun _ _ => ⟨hflight, hloaded⟩
      budget := .inl (hb.stage hpending rfl rfl rfl rfl hstaged) }
  rcases hw' with ⟨-, b, hcommit⟩ | ⟨-, rfl⟩
  · exact hs₁.commitPrefetch hcommit
  · exact hs₁

/-- A primary result changes no setting, viewport, batch, staged lines or load in
flight, and keeps only buffered lines. -/
theorem applyPrimary_frame {ticket : LoadTicket} {result : Except LoadError LogChunk}
    {o : LoadOutcome} (h : w.applyPrimary ticket result = .ok (w', o)) :
    w'.config = w.config ∧ w'.viewportHeight = w.viewportHeight ∧ w'.batchSize = w.batchSize ∧
      w'.pending = w.pending ∧ w'.inFlight = w.inFlight ∧ w'.buffer ⊆ w.buffer := by
  rcases applyPrimary_cases h with ⟨e, -, rfl⟩ | ⟨chunk, rfl, hne⟩
  · exact ⟨rfl, rfl, rfl, rfl, rfl, fun _ hl => hl⟩
  obtain ⟨-, streamed, buffer, newer, hsrc, hcase⟩ := applyPrimary_applied rfl hne h
  have hbuf := (streamed_sources hsrc).2.1
  rcases hcase with ⟨-, rfl⟩ | ⟨lo, hi, d, s, -, -, rfl, -, -⟩
  · exact ⟨rfl, rfl, rfl, rfl, rfl, hbuf.subset⟩
  · exact ⟨rfl, rfl, rfl, rfl, rfl, hbuf.subset⟩

/-- A primary result whose lines are numbered up to `safeSize`, taken with
nothing in flight or staged, leaves the view within content numbered up to
`safeSize`. -/
theorem Small.applyPrimary (hs : w.Small) (hscroll : w.scroll ≤ scrollCap)
    (hpending : w.pending = none) (hflight : w.inFlight = none) {ticket : LoadTicket}
    {result : Except LoadError LogChunk}
    (hnum : ∀ chunk, result = .ok chunk → ∀ l ∈ chunk.lines, l.number ≤ safeSize)
    {o : LoadOutcome} (h : w.applyPrimary ticket result = .ok (w', o)) : w'.Sized := by
  obtain ⟨hroom, hclamp⟩ := ((hs.roomy hscroll).applyPrimary_ok ticket hnum).elim h
  obtain ⟨hconfig, hheight, hbatch, hpend, hfl, hbuf⟩ := applyPrimary_frame h
  have hpending' : w'.pending = none := hpend.trans hpending
  exact {
    config := hconfig ▸ hs.config
    batch_le := by
      rw [hbatch, hconfig]
      exact hs.batch_le
    height_le := hheight ▸ hs.height_le
    display_le := hroom.numbers_le
    buffer_le := fun l hl => hs.buffer_le l (hbuf hl)
    staged_le := fun _ hp => by cases hpending'.symm.trans hp
    staged_idle := fun _ hp => by cases hpending'.symm.trans hp
    prefetch_loaded := fun _ ht => by cases (hfl.trans hflight).symm.trans ht
    budget := .inl (budgeted_of_clamped hclamp hroom.numbers_le fun _ hp => by
      cases hpending'.symm.trans hp) }

/-- The result of the load in flight is taken, and that of another generation or
task changes nothing. -/
theorem Sized.complete (hs : w.Sized) {ticket : LoadTicket} {result : Except LoadError LogChunk}
    (hcurrent : ticket.generation = w.generation → w.task = some ticket.task →
      w.inFlight = some ticket)
    (hres : ∀ chunk, result = .ok chunk →
      Ascending chunk.lines ∧ ∀ l ∈ chunk.lines, l.number ≤ safeSize)
    {o : LoadOutcome} (h : w.complete ticket result = .ok (w', o)) : w'.Sized := by
  rcases complete_eq h with ⟨-, rfl, -⟩ | ⟨hgen, htask, hcur⟩
  · exact hs
  have hflight := hcurrent hgen htask
  -- with a load in flight nothing is staged
  have hpending : w.pending = none := by
    cases hp : w.pending with
    | none => rfl
    | some p =>
      have := (hs.staged_idle p hp).1
      rw [hflight] at this
      cases this
  rw [if_pos hflight] at hcur
  have hsmall : Small { w with inFlight := none } := { hs.toSmall with }
  rcases hcur with ⟨hkind, hp⟩ | ⟨-, hp⟩
  · -- a prefetch in flight waits with a range loaded and the budget kept
    have hb : w.Budgeted := by
      rcases hs.budget with hb | ⟨⟨⟨t, ht, hnot⟩, -⟩, -⟩
      · exact hb
      · rw [hflight] at ht
        cases ht
        exact absurd hkind hnot
    exact hsmall.applyPrefetch hb hpending rfl (hs.prefetch_loaded ticket hflight hkind)
      hres hp
  · exact hsmall.applyPrimary hs.scroll_le hpending rfl (fun chunk hr => (hres chunk hr).2) hp

/-- Resizing the viewport to at most `safeSize` rows leaves the view within the
content. -/
theorem Sized.setViewportRows (hs : w.Sized) {rows : Nat} (hr : rows ≤ safeSize)
    (h : w.setViewportRows rows = .ok w') : w'.Sized := by
  obtain ⟨s, hset, hclamp⟩ := (hs.roomy hs.scroll_le).setViewportRows_ok hr
  rw [hset] at h
  cases h
  exact { hs with
    height_le := Nat.mul_le_mul hr hs.config.lineHeight_le
    budget := .inl (budgeted_of_clamped hclamp hs.display_le hs.staged_le) }

/-- A scroll by at most `safeSize` lines moves up, or down within the content. -/
theorem Sized.scrollLines (hs : w.Sized) {delta : Int} (hd : delta.natAbs ≤ safeSize)
    (h : w.scrollLines delta = .ok w') : w'.Sized := by
  obtain ⟨s, hscroll, hle⟩ := (hs.roomy hs.scroll_le).scrollLines_ok hd
  rw [hscroll] at h
  cases h
  refine { hs with budget := ?_ }
  rcases hle with hup | hclamp
  · rcases hs.budget with hb | ⟨hprim, hcap⟩
    · exact .inl (hb.of_frame hup rfl rfl (Nat.le_refl _))
    · exact .inr ⟨hprim, Nat.le_trans hup hcap⟩
  · exact .inl (budgeted_of_clamped hclamp hs.display_le hs.staged_le)

theorem Sized.scrollToTop (hs : w.Sized) : w.scrollToTop.Sized :=
  { hs with budget := .inl (budgeted_of_clamped (Nat.zero_le _) hs.display_le hs.staged_le) }

theorem Sized.scrollToBottom (hs : w.Sized) (h : w.scrollToBottom = .ok w') : w'.Sized := by
  rw [scrollToBottom_of_fits (hs.roomy hs.scroll_le).content_fits] at h
  cases h
  exact { hs with
    budget := .inl (budgeted_of_clamped (Nat.sub_le _ _) hs.display_le hs.staged_le) }

end Window

namespace Session

variable {s s' : Session} {op : WindowOp}

/-- A sized window whose caller holds its one live load. -/
structure Sized (s : Session) : Prop where
  live : OneLive s
  window : s.window.Sized

/-- What the wire caller hands back is ascending. -/
theorem wire_ascending {t : LoadTicket} {r : Except LoadError LogChunk}
    (h : Caller.wire.answers t r) : ∀ chunk, r = .ok chunk → Ascending chunk.lines := by
  rintro chunk rfl
  rcases h with ⟨e, he⟩ | ⟨texts, total, chunk', hof, hc⟩
  · cases he
  · cases hc
    exact (LogChunk.ofTexts_lines hof).1

/-- Every operation whose arguments fit keeps the session sized. -/
theorem Sized.step (hs : s.Sized) (hfit : op.Fits) (h : Step Caller.wire s op s') :
    s'.Sized := by
  refine ⟨hs.live.step rfl h, ?_⟩
  have hlive := hs.live
  cases h with
  | @mk w held _ w' issued hallow hperf =>
  have hw : w.Sized := hs.window
  show w'.Sized
  have hop := Window.perform_eq_ok hperf
  cases op with
  | openTask task =>
    rw [hop.1]
    exact hw.openTask task
  | reload =>
    cases htask : w.task with
    | none =>
      rw [Window.reload_of_none htask] at hop
      cases hop
      exact hw
    | some task =>
      rw [Window.reload_of_task htask] at hop
      cases hop
      exact hw.openTask task
  | close =>
    rw [hop.1]
    exact hw.reset
  | loadRange first last =>
    rcases hop with hr | ⟨-, rfl, -⟩
    · exact hw.loadRange hr
    · exact hw
  | complete t r =>
    obtain ⟨-, o, hcomp⟩ := hop
    exact hw.complete (fun hgen _ => hlive.current t hallow.1 hgen)
      (fun chunk hr => ⟨wire_ascending hallow.2 chunk hr, by subst hr; exact hfit⟩) hcomp
  | append task l =>
    obtain ⟨-, b, ha⟩ := hop
    exact hw.appendStreamed hfit ha
  | flush =>
    obtain ⟨-, r, hf⟩ := hop
    exact hw.flush hf
  | prefetch position height => exact hw.prefetchAbove hop
  | commit =>
    obtain ⟨-, b, hc⟩ := hop
    exact hw.commitPrefetch hc
  | onScroll => exact hw.onScroll hop
  | setRows rows =>
    obtain ⟨v, hv, hrest⟩ := checked_bind_eq_ok hperf
    cases checked_pure_eq_ok hrest
    exact hw.setViewportRows hfit hv
  | scroll delta =>
    obtain ⟨v, hv, hrest⟩ := checked_bind_eq_ok hperf
    cases checked_pure_eq_ok hrest
    exact hw.scrollLines hfit hv
  | toTop =>
    cases checked_pure_eq_ok hperf
    exact hw.scrollToTop
  | toBottom =>
    obtain ⟨v, hv, hrest⟩ := checked_bind_eq_ok hperf
    cases checked_pure_eq_ok hrest
    exact hw.scrollToBottom hv

theorem sized_start {c : WindowConfig} (hc : c.Fits) : (start c).Sized :=
  ⟨⟨fun _ ht => (by cases ht), fun _ ht => (by cases ht), fun _ ht => (by cases ht)⟩,
    Window.sized_new hc⟩

theorem GuardedRun.sized {c : WindowConfig} (hc : c.Fits) {ops : List WindowOp}
    (h : GuardedRun Caller.wire (fun _ op => op.Fits) (start c) ops s) : s.Sized :=
  h.induction _ (fun _ _ _ hs hg hstep => hs.step hg hstep) (sized_start hc)

/-- Along every run with sizes at most `safeSize`, the next operation whose arguments
are at most `safeSize` returns: no product or sum leaves the word. -/
theorem perform_fits_along_runs {c : WindowConfig} (hc : c.check = none)
    (hlh : c.lineHeight ≤ safeSize) (hmax : c.maxBatch ≤ safeSize) {ops : List WindowOp}
    (h : GuardedRun Caller.wire (fun _ op => op.Fits) (start c) ops s) (hop : op.Fits) :
    ∃ r, s.window.perform op = .ok r := by
  have hs := (h.sized (WindowConfig.fits_of_check hc hlh hmax)).window
  obtain ⟨r, hr, -⟩ := hs.toSmall.perform_ok hs.scroll_le hop
  exact ⟨r, hr⟩

/-- The tail of an opened task, handed back with one line, is taken. -/
theorem perform_fits_after_open :
    ∃ r, ((Window.new {}).openTask 7).1.perform
      (.complete ⟨1, 7, .tail, 0, 0⟩ (.ok ⟨[⟨1, "x"⟩], 1⟩)) = .ok r :=
  perform_fits_along_runs (by decide) (by decide) (by decide)
    ((GuardedRun.nil : GuardedRun Caller.wire (fun _ op => op.Fits) (start {}) [] _).perform
      (.openTask 7) trivial trivial rfl) (by decide)

/-- A log whose one line is numbered `wordMax`, handed back as the tail of an
opened task, stops the tail merge: past its last line lies no word. -/
theorem tail_at_wordMax_overflows :
    ∃ chunk, LogChunk.ofTexts 0 0 ["x"] wordMax = .ok chunk ∧
      ((Window.new {}).openTask 7).1.perform (.complete ⟨1, 7, .tail, 0, 0⟩ (.ok chunk)) =
        .error .add :=
  ⟨⟨[⟨wordMax, "x"⟩], wordMax⟩, rfl, rfl⟩

end Session

end TaskConsole
