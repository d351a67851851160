import TaskConsole.Proofs.Chunk
import TaskConsole.Proofs.LineMap
import TaskConsole.Proofs.Window.Tickets

/-! While pruning gives no line away, a served window shows an unbroken run of the log
(`served_display_contiguous`); a bottom prune leaves a gap
(`display_gap_after_bottom_prune`). -/

namespace TaskConsole

namespace LineMap

/-- The numbers held run from the first one with no number missing. -/
def Contiguous (m : LineMap) : Prop :=
  m.numbers = List.range' (m.numbers.headD 0) m.numbers.length

instance (m : LineMap) : Decidable m.Contiguous :=
  inferInstanceAs (Decidable (_ = _))

theorem contiguous_of_mem_iff {m : LineMap} {a b : Nat}
    (h : ∀ n, n ∈ m.numbers ↔ a ≤ n ∧ n ≤ b) : m.Contiguous := by
  unfold Contiguous
  rw [numbers_eq_range' h, List.length_range']
  cases b + 1 - a with
  | zero => rfl
  | succ k => rfl

theorem contiguous_of_lines_nil {m : LineMap} (h : m.lines = []) : m.Contiguous := by
  simp [Contiguous, numbers, h]

end LineMap

namespace Window

variable {w w' : Window} {task n lo d : Nat}

/-- The window of `task` after its tail, against a log of `n` lines: display `lo..d`,
display and buffer `lo..n`, and prefetches ending right above `lo`. -/
structure Abutting (task n : Nat) (w : Window) (lo d : Nat) : Prop where
  task : w.task = some task
  state : w.state ≠ .loading
  total : w.totalLines = n
  loaded : w.loaded = some ⟨lo, n⟩ ∧ 1 ≤ lo ∧ lo ≤ n ∨ w.loaded = none ∧ lo = n + 1
  bounds : lo ≤ d + 1 ∧ d ≤ n
  display : ∀ k, k ∈ w.display.numbers ↔ lo ≤ k ∧ k ≤ d
  buffer : ∀ k ∈ w.buffer.map (·.number), lo ≤ k ∧ k ≤ n
  covered : ∀ k, d < k → k ≤ n → k ∈ w.buffer.map (·.number)
  staged : ∀ p, w.pending = some p → w.loaded = some ⟨lo, n⟩ ∧ w.inFlight = none ∧
    1 ≤ p.range.first ∧ p.range.first < lo ∧
    ∀ k, k ∈ p.lines.map (·.number) ↔ p.range.first ≤ k ∧ k < lo
  inFlight : ∀ t, w.inFlight = some t → w.loaded = some ⟨lo, n⟩ ∧ t.kind = .prefetch ∧
    1 ≤ t.first ∧ t.first ≤ t.last ∧ t.last + 1 = lo

theorem Abutting.lo_bounds (ha : w.Abutting task n lo d) : 1 ≤ lo ∧ lo ≤ n + 1 := by
  rcases ha.loaded with ⟨-, h1, h2⟩ | ⟨-, rfl⟩ <;> omega

/-- A display holding `lo` to `d ≤ n` and merged with the lines `a ≥ lo` to `n`
holds no more than the `n` lines of the log, so a prune keeps all of it. -/
theorem kept_of_fits {disp m : LineMap} {a b k : Nat} (ha : 1 ≤ a) (hb : b ≤ n)
    (hfit : n ≤ k) (hmem : ∀ x, x ∈ m.numbers ↔ a ≤ x ∧ x ≤ b)
    (hsub : List.Sublist disp.lines m.lines) (hsize : disp.size = min m.size k) : disp = m :=
  LineMap.eq_of_sublist_of_fits hsub hsize (by rw [LineMap.size_eq_of_mem_iff hmem]; omega)

theorem Abutting.prefetchAbove (ha : w.Abutting task n lo d) {position height : Nat}
    {t? : Option LoadTicket} (h : w.prefetchAbove position height = (w', t?)) :
    w'.Abutting task n lo d := by
  rcases prefetchAbove_eq h with
    ⟨-, rfl⟩ | ⟨task', loaded, -, hloaded, -, -, -, hpending, hfirst, rfl, rfl⟩
  · exact ha
  · -- the batch asked for ends right above the loaded range
    have hlo : loaded = ⟨lo, n⟩ := by
      rcases ha.loaded with ⟨h1, -⟩ | ⟨h1, -⟩ <;> rw [hloaded] at h1 <;> cases h1
      rfl
    subst hlo
    have hlo2 : 2 ≤ lo := hfirst
    refine { ha with
      staged := fun p hp => by cases hpending.symm.trans hp
      inFlight := fun t ht => ?_ }
    cases ht
    exact ⟨hloaded, rfl, Nat.le_max_left _ _, by simp only; omega, by simp only; omega⟩

theorem Abutting.commitPrefetch (ha : w.Abutting task n lo d)
    (hfit : n ≤ w.config.maxDisplayLines) {b : Bool} (h : w.commitPrefetch = .ok (w', b)) :
    ∃ lo', w'.Abutting task n lo' d := by
  rcases commitPrefetch_eq h with ⟨-, rfl, -⟩ | ⟨staged, disp, s, hpending, -, rfl, hsub, hsize⟩
  · exact ⟨lo, ha⟩
  · obtain ⟨hloaded, hflight, hfirst, hlt, hlines⟩ := ha.staged staged hpending
    -- the staged lines end right above the display, so the two make one run
    have hmem : ∀ k, k ∈ (w.display.insertAll staged.lines).numbers ↔
        staged.range.first ≤ k ∧ k ≤ d := by
      intro k
      rw [LineMap.mem_numbers_insertAll, ha.display k, hlines k]
      have := ha.bounds.1
      omega
    obtain rfl := kept_of_fits hfirst ha.bounds.2 hfit hmem hsub hsize
    have hloaded' : (w.loaded.map fun r => { r with first := min r.first staged.range.first }) =
        some ⟨staged.range.first, n⟩ := by
      simp [hloaded, Nat.min_eq_right (Nat.le_of_lt hlt)]
    refine ⟨staged.range.first, { ha with
      loaded := .inl ⟨hloaded', hfirst, by have := ha.bounds; omega⟩
      bounds := ⟨by have := ha.bounds; omega, ha.bounds.2⟩
      display := hmem
      buffer := fun k hk => ⟨by have := (ha.buffer k hk).1; omega, (ha.buffer k hk).2⟩
      staged := fun p hp => by cases hp
      inFlight := fun t ht => by cases hflight.symm.trans ht }⟩

theorem Abutting.flush (ha : w.Abutting task n lo d) (hfit : n ≤ w.config.maxDisplayLines)
    {r : FlushReport} (h : w.flush = .ok (w', r)) : ∃ d', w'.Abutting task n lo d' := by
  rcases flush_eq h with ⟨-, rfl⟩ | ⟨disp, s, -, rfl, hsub, hsize⟩
  · exact ⟨d, ha⟩
  · -- the buffer fills the display up to the end of the log
    have hmem : ∀ k, k ∈ (w.display.insertAll (sortedBatch w.buffer)).numbers ↔
        lo ≤ k ∧ k ≤ n := by
      intro k
      have hsorted : k ∈ (sortedBatch w.buffer).map (·.number) ↔ k ∈ w.buffer.map (·.number) := by
        simp only [List.mem_map, mem_sortedBatch]
      rw [LineMap.mem_numbers_insertAll, ha.display k, hsorted]
      constructor
      · rintro (hk | hk)
        · exact ⟨hk.1, Nat.le_trans hk.2 ha.bounds.2⟩
        · exact ha.buffer k hk
      · rintro ⟨hlo, hn⟩
        by_cases hk : k ≤ d
        · exact .inl ⟨hlo, hk⟩
        · exact .inr (ha.covered k (by omega) hn)
    obtain rfl := kept_of_fits ha.lo_bounds.1 (Nat.le_refl n) hfit hmem hsub hsize
    refine ⟨n, { ha with
      state := ?_
      bounds := ⟨by have := ha.lo_bounds; omega, Nat.le_refl n⟩
      display := hmem
      buffer := fun k hk => absurd hk List.not_mem_nil
      covered := fun k h1 h2 => absurd h2 (by omega) }⟩
    show (if w.state = .empty then DisplayState.lines else w.state) ≠ .loading
    split
    · exact fun h => by cases h
    · exact ha.state

theorem Abutting.appendStreamed (ha : w.Abutting task n lo d)
    (hfit : n + 1 ≤ w.config.maxDisplayLines) {b : Bool}
    (h : w.appendStreamed task (LogLine.numbered (n + 1)) = .ok (w', b)) :
    ∃ d', w'.Abutting task (n + 1) lo d' := by
  rcases appendStreamed_eq h with ⟨hrefused, -⟩ | ⟨-, -, first, w₁, hfirst, rfl, hw'⟩
  · rcases hrefused with hne | hzero
    · exact absurd ha.task hne
    · exact absurd hzero (Nat.succ_ne_zero n)
  · -- the loaded range keeps its first line and grows by the new one
    have hfirst : first = lo := by
      rcases hfirst with ⟨hnone, rfl⟩ | ⟨r, hr, rfl⟩
      · rcases ha.loaded with ⟨h1, -⟩ | ⟨-, rfl⟩
        · rw [hnone] at h1
          cases h1
        · rfl
      · rcases ha.loaded with ⟨h1, -, hle⟩ | ⟨h1, -⟩ <;> rw [hr] at h1 <;> cases h1
        exact Nat.min_eq_left (by simp only [LogLine.numbered]; omega)
    subst hfirst
    have htotal : max w.totalLines (LogLine.numbered (n + 1)).number = n + 1 := by
      simp only [ha.total, LogLine.numbered]
      omega
    have ha₁ : Window.Abutting task (n + 1) { w with
        totalLines := max w.totalLines (LogLine.numbered (n + 1)).number
        loaded := some ⟨first, max w.totalLines (LogLine.numbered (n + 1)).number⟩
        buffer := w.buffer ++ [LogLine.numbered (n + 1)] } first d := by
      have hlo := ha.lo_bounds
      refine { ha with
        total := htotal
        loaded := .inl ⟨by rw [htotal], hlo.1, hlo.2⟩
        bounds := ⟨ha.bounds.1, by have := ha.bounds.2; omega⟩
        buffer := fun k hk => ?_
        covered := fun k h1 h2 => ?_
        staged := fun p hp => ?_
        inFlight := fun t ht => ?_ }
      · simp only [List.map_append, List.mem_append, List.map_cons, List.map_nil,
          List.mem_singleton, LogLine.numbered] at hk
        rcases hk with hk | rfl
        · have := ha.buffer k hk
          omega
        · omega
      · simp only [List.map_append, List.mem_append, List.map_cons, List.map_nil,
          List.mem_singleton, LogLine.numbered]
        by_cases hk : k ≤ n
        · exact .inl (ha.covered k h1 hk)
        · exact .inr (by omega)
      · obtain ⟨-, rest⟩ := ha.staged p hp
        exact ⟨by rw [htotal], rest⟩
      · obtain ⟨-, rest⟩ := ha.inFlight t ht
        exact ⟨by rw [htotal], rest⟩
    rcases hw' with ⟨-, rfl⟩ | ⟨-, r, hflush⟩
    · exact ⟨d, ha₁⟩
    · exact ha₁.flush hfit hflush

theorem Abutting.onScroll (ha : w.Abutting task n lo d) (hfit : n ≤ w.config.maxDisplayLines)
    {t? : Option LoadTicket} (h : w.onScroll = .ok (w', t?)) :
    ∃ lo', w'.Abutting task n lo' d := by
  obtain ⟨w₁, hp, ⟨-, -, b, hc⟩ | ⟨-, rfl⟩⟩ := onScroll_eq h
  · exact (ha.prefetchAbove hp).commitPrefetch (by rw [prefetchAbove_config hp]; exact hfit) hc
  · exact ⟨lo, ha.prefetchAbove hp⟩

/-- A prefetch of the lines `first` to `lo - 1` is staged in full, and spliced in
when the view is near the top. -/
theorem Abutting.applyPrefetch (ha : w.Abutting task n lo d)
    (hfit : n ≤ w.config.maxDisplayLines) (hflight : w.inFlight = none)
    (hloaded : w.loaded = some ⟨lo, n⟩) {first : Nat} (hfirst : 1 ≤ first) (hlt : first < lo)
    {chunk : LogChunk} (hlines : chunk.lines.map (·.number) = List.range' first (lo - first))
    (htotal : chunk.totalLines = n) {o : LoadOutcome}
    (h : w.applyPrefetch (.ok chunk) = .ok (w', o)) : ∃ lo', w'.Abutting task n lo' d := by
  have hnum : ∀ k, k ∈ chunk.lines.map (·.number) ↔ first ≤ k ∧ k < lo := by
    intro k
    rw [hlines, List.mem_range'_1]
    omega
  -- every line read lies above the loaded range
  have hkept : chunk.lines.filter (·.number < w.loadedStart) = chunk.lines := by
    rw [List.filter_eq_self]
    intro l hl
    have := (hnum l.number).mp (List.mem_map_of_mem hl)
    simp only [loadedStart, hloaded, decide_eq_true_eq]
    omega
  have htotal' : max w.totalLines chunk.totalLines = n := by
    rw [ha.total, htotal, Nat.max_self]
  rcases applyPrefetch_eq h with
    ⟨e, he, -⟩ | ⟨chunk', hc, -, ⟨-, rfl⟩ | ⟨l₀, l₁, w₁, hhead, -, rfl, hw'⟩⟩
  · cases he
  · cases hc
    exact ⟨lo, { ha with total := htotal' }⟩
  · cases hc
    rw [hkept] at hhead
    have hl₀ : l₀.number = first := by
      have hmap := congrArg (Option.map (·.number)) hhead
      rw [← List.head?_map, hlines, List.head?_range', if_neg (by omega)] at hmap
      exact (Option.some.inj hmap).symm
    have ha₁ : Window.Abutting task n { w with
        totalLines := max w.totalLines chunk.totalLines
        moreAbove := decide (l₀.number > 1)
        batchSize := min (w.batchSize * 2) w.config.maxBatch
        pending := some ⟨chunk.lines.filter (·.number < w.loadedStart),
          ⟨l₀.number, l₁.number⟩⟩ } lo d := by
      refine { ha with
        total := htotal'
        staged := fun p hp => ?_
        inFlight := fun t ht => by cases hflight.symm.trans ht }
      cases hp
      refine ⟨hloaded, hflight, ?_, ?_, ?_⟩
      · show 1 ≤ l₀.number
        omega
      · show l₀.number < lo
        omega
      · intro k
        show k ∈ (chunk.lines.filter (·.number < w.loadedStart)).map (·.number) ↔
          l₀.number ≤ k ∧ k < lo
        rw [hkept, hnum k, hl₀]
    rcases hw' with ⟨-, b, hc⟩ | ⟨-, rfl⟩
    · exact ha₁.commitPrefetch hfit hc
    · exact ⟨lo, ha₁⟩

/-- A primary result that is a run of lines up to `n` keeps a run up to `n`: a
tail keeps its last lines. -/
theorem primaryLines_run (kind : LoadKind) {lines : List LogLine} {a : Nat} (ha1 : 1 ≤ a)
    (han : a ≤ n + 1) (hlines : lines.map (·.number) = List.range' a (n + 1 - a)) :
    ∃ a', 1 ≤ a' ∧ a' ≤ n + 1 ∧
      (w.primaryLines kind lines).map (·.number) = List.range' a' (n + 1 - a') := by
  have hlen : lines.length = n + 1 - a := by
    rw [← List.length_map (f := (·.number)), hlines, List.length_range']
  unfold primaryLines
  split
  · refine ⟨a + (lines.length - w.config.initialBatch), by omega, by omega, ?_⟩
    have hcount : n + 1 - a - (lines.length - w.config.initialBatch) =
        n + 1 - (a + (lines.length - w.config.initialBatch)) := by
      omega
    rw [List.map_drop, hlines, List.drop_range', Nat.mul_one, hcount]
  · exact ⟨a, ha1, han, hlines⟩

/-- A window that holds nothing carries nothing over into a primary result. -/
theorem streamed_of_empty (hdisplay : w.display.lines = []) (hbuffer : w.buffer = [])
    {kind : LoadKind} {first? last? : Option Nat} {streamed : LineMap}
    {buffer : List LogLine} {newer : List Nat}
    (h : kind = .tail ∧ w.streamedPast first? last? = .ok (streamed, buffer, newer) ∨
      kind ≠ .tail ∧ streamed = LineMap.empty ∧ buffer = w.buffer ∧ newer = []) :
    streamed.lines = [] ∧ buffer = [] ∧ newer = [] := by
  obtain ⟨hss, hbs, hnewer⟩ := streamed_sources h
  have hstreamed : streamed.lines = [] := List.eq_nil_of_sublist_nil (hdisplay ▸ hss)
  have hbuf : buffer = [] := List.eq_nil_of_sublist_nil (hbuffer ▸ hbs)
  refine ⟨hstreamed, hbuf, List.eq_nil_iff_forall_not_mem.mpr fun k hk => ?_⟩
  rcases hnewer k hk with hk | hk
  · simp [LineMap.numbers, hstreamed] at hk
  · simp [hbuf] at hk

/-- A tail read of the lines `a` to `n` into a window holding nothing brings the
tail in: the display holds its last lines, up to the end of the log. -/
theorem applyPrimary_tail_abutting (htask : w.task = some task) (hdisplay : w.display.lines = [])
    (hbuffer : w.buffer = []) (hpending : w.pending = none) (hflight : w.inFlight = none)
    (hzero : w.totalLines = 0) (hfit : n ≤ w.config.maxDisplayLines) {ticket : LoadTicket}
    (hkind : ticket.kind = .tail) {chunk : LogChunk} {a : Nat} (ha1 : 1 ≤ a) (han : a ≤ n + 1)
    (hlines : chunk.lines.map (·.number) = List.range' a (n + 1 - a))
    (htotal : chunk.totalLines = n) {o : LoadOutcome}
    (h : w.applyPrimary ticket (.ok chunk) = .ok (w', o)) : ∃ lo d, w'.Abutting task n lo d := by
  have hne : ¬(chunk.lines.isEmpty = true ∧ ticket.kind = .range) := by
    rw [hkind]
    simp
  obtain ⟨a', ha'1, ha'n, hnum⟩ := primaryLines_run (w := w) ticket.kind ha1 han hlines
  obtain ⟨-, streamed, buffer, newer, hsrc, hcase⟩ := applyPrimary_applied rfl hne h
  obtain ⟨hstreamed, rfl, rfl⟩ := streamed_of_empty hdisplay hbuffer hsrc
  have hmem : ∀ k, k ∈ ((LineMap.ofList (w.primaryLines ticket.kind chunk.lines)).insertAll
      streamed.lines).numbers ↔ a' ≤ k ∧ k ≤ n := by
    intro k
    rw [LineMap.mem_numbers_insertAll, hstreamed, LineMap.ofList, LineMap.mem_numbers_insertAll,
      hnum, List.mem_range'_1]
    simp only [LineMap.empty, LineMap.numbers, List.map_nil, List.not_mem_nil, false_or, or_false]
    omega
  have hhead : (w.primaryLines ticket.kind chunk.lines).head?.map (·.number) =
      if n + 1 - a' = 0 then none else some a' := by
    rw [← List.head?_map, hnum, List.head?_range']
  have hlast : (w.primaryLines ticket.kind chunk.lines).getLast?.map (·.number) =
      if n + 1 - a' = 0 then none else some n := by
    rw [← List.getLast?_map, hnum, List.getLast?_range']
    split
    · rfl
    · congr 1
      omega
  have htotal' : max w.totalLines chunk.totalLines = n := by
    rw [hzero, htotal, Nat.zero_max]
  rcases hcase with ⟨hnone, rfl⟩ | ⟨lo, hi, disp, s, hlo, hhi, rfl, hsub, hsize⟩
  · -- nothing read: the empty run above the end of the log
    have hempty : n + 1 - a' = 0 := by
      refine Classical.byContradiction fun hpos => ?_
      rw [hhead, hlast, if_neg hpos, if_neg hpos] at hnone
      simp at hnone
    refine ⟨n + 1, n, ⟨htask, (fun h => by cases h), htotal', .inr ⟨rfl, rfl⟩,
      ⟨Nat.le_refl _, Nat.le_refl n⟩, fun k => ?_, (fun k hk => absurd hk List.not_mem_nil),
      fun k h1 h2 => absurd h2 (by omega), (fun p hp => by cases hpending.symm.trans hp),
      (fun t ht => by cases hflight.symm.trans ht)⟩⟩
    rw [hmem k]
    omega
  · -- lines read: the display is their run, `a'` to `n`, and nothing is pruned
    have hpos : n + 1 - a' ≠ 0 := by
      intro hempty
      rw [hhead, if_pos hempty] at hlo
      simp at hlo
    rw [hhead, if_neg hpos] at hlo
    rw [hlast, if_neg hpos] at hhi
    simp only [Option.orElse_eq_orElse, Option.orElse_eq_or, Option.some_or,
      Option.some.injEq] at hlo
    simp at hhi
    subst hlo hhi
    obtain rfl := kept_of_fits ha'1 (Nat.le_refl _) hfit hmem hsub hsize
    refine ⟨a', n, ⟨htask, ?_, ?_, .inl ⟨rfl, ha'1, by omega⟩, ⟨by omega, Nat.le_refl _⟩, hmem,
      (fun k hk => absurd hk List.not_mem_nil), fun k h1 h2 => absurd h2 (by omega),
      (fun p hp => by cases hpending.symm.trans hp), (fun t ht => by cases hflight.symm.trans ht)⟩⟩
    · show (if _ = 0 then DisplayState.empty else .lines) ≠ .loading
      split <;> exact fun h => by cases h
    · show max (max w.totalLines chunk.totalLines) n = n
      rw [htotal']
      exact Nat.max_self n

/-- The stages of a window of `task` fed by a log of `n` lines: no task open and
nothing held; the tail loading into a window that holds nothing; the tail in,
with abutting ranges. -/
inductive Fed (task n : Nat) (w : Window) : Prop
  | closed : w.task = none → w.display.lines = [] → w.buffer = [] → w.pending = none →
      Fed task n w
  | loading : w.task = some task → w.state = .loading → w.display.lines = [] → w.buffer = [] →
      w.pending = none → w.totalLines = 0 →
      w.inFlight = some ⟨w.generation, task, .tail, 0, 0⟩ → Fed task n w
  | tailIn {lo d : Nat} : w.Abutting task n lo d → Fed task n w

theorem fed_new (c : WindowConfig) : (Window.new c).Fed task n :=
  .closed rfl rfl rfl rfl

theorem fed_openTask (w : Window) : (w.openTask task).1.Fed task n :=
  .loading rfl rfl rfl rfl rfl rfl rfl

theorem fed_close (w : Window) : w.close.Fed task n :=
  .closed rfl rfl rfl rfl

theorem Fed.contiguous (hf : w.Fed task n) : w.display.Contiguous := by
  cases hf with
  | closed _ hdisplay => exact LineMap.contiguous_of_lines_nil hdisplay
  | loading _ _ hdisplay => exact LineMap.contiguous_of_lines_nil hdisplay
  | tailIn ha => exact LineMap.contiguous_of_mem_iff ha.display

theorem Fed.task_eq (hf : w.Fed task n) {k : Nat} (h : w.task = some k) : k = task := by
  cases hf with
  | closed hnone => rw [hnone] at h; cases h
  | loading htask => rw [htask] at h; cases h; rfl
  | tailIn ha => rw [ha.task] at h; cases h; rfl

theorem Fed.frame (hf : w.Fed task n) (s v : Nat) :
    { w with scroll := s, viewportHeight := v }.Fed task n := by
  cases hf with
  | closed h₁ h₂ h₃ h₄ => exact .closed h₁ h₂ h₃ h₄
  | loading h₁ h₂ h₃ h₄ h₅ h₆ h₇ => exact .loading h₁ h₂ h₃ h₄ h₅ h₆ h₇
  | tailIn ha => exact .tailIn { ha with }

theorem Fed.prefetchAbove (hf : w.Fed task n) {position height : Nat} {t? : Option LoadTicket}
    (h : w.prefetchAbove position height = (w', t?)) : w'.Fed task n := by
  rcases prefetchAbove_eq h with ⟨-, rfl⟩ | ⟨task', loaded, htask, -, hstate, -⟩
  · exact hf
  · cases hf with
    | closed hnone => rw [hnone] at htask; cases htask
    | loading _ hloading => rw [hloading] at hstate; cases hstate
    | tailIn ha => exact .tailIn (ha.prefetchAbove h)

theorem Fed.commitPrefetch (hf : w.Fed task n) (hfit : n ≤ w.config.maxDisplayLines) {b : Bool}
    (h : w.commitPrefetch = .ok (w', b)) : w'.Fed task n := by
  rcases commitPrefetch_eq h with ⟨-, rfl, -⟩ | ⟨staged, disp, s, hpending, -⟩
  · exact hf
  · cases hf with
    | closed _ _ _ hnone => rw [hnone] at hpending; cases hpending
    | loading _ _ _ _ hnone => rw [hnone] at hpending; cases hpending
    | tailIn ha =>
      obtain ⟨lo', ha'⟩ := ha.commitPrefetch hfit h
      exact .tailIn ha'

theorem Fed.flush (hf : w.Fed task n) (hfit : n ≤ w.config.maxDisplayLines) {r : FlushReport}
    (h : w.flush = .ok (w', r)) : w'.Fed task n := by
  rcases flush_eq h with ⟨-, rfl⟩ | ⟨disp, s, hne, -⟩
  · exact hf
  · cases hf with
    | closed _ _ hnil => exact absurd hnil hne
    | loading _ _ _ hnil => exact absurd hnil hne
    | tailIn ha =>
      obtain ⟨d', ha'⟩ := ha.flush hfit h
      exact .tailIn ha'

theorem Fed.onScroll (hf : w.Fed task n) (hfit : n ≤ w.config.maxDisplayLines)
    {t? : Option LoadTicket} (h : w.onScroll = .ok (w', t?)) : w'.Fed task n := by
  obtain ⟨w₁, hp, ⟨-, -, b, hc⟩ | ⟨-, rfl⟩⟩ := onScroll_eq h
  · exact (hf.prefetchAbove hp).commitPrefetch (by rw [prefetchAbove_config hp]; exact hfit) hc
  · exact hf.prefetchAbove hp

/-- The log's next line, streamed once the tail is in, keeps the stage. -/
theorem Fed.appendStreamed (hf : w.Fed task n) (hfit : n + 1 ≤ w.config.maxDisplayLines)
    (hstate : w.state ≠ .loading) {b : Bool}
    (h : w.appendStreamed task (LogLine.numbered (n + 1)) = .ok (w', b)) :
    w'.Fed task (n + 1) := by
  cases hf with
  | closed hnone hdisplay hbuffer hpending =>
    rcases appendStreamed_eq h with ⟨-, rfl⟩ | ⟨htask, -⟩
    · exact .closed hnone hdisplay hbuffer hpending
    · rw [hnone] at htask
      cases htask
  | loading _ hloading => exact absurd hloading hstate
  | tailIn ha =>
    obtain ⟨d', ha'⟩ := ha.appendStreamed hfit h
    exact .tailIn ha'

/-- A current ticket answered with the log's lines for it brings the tail in, or
stages the prefetch. -/
theorem Fed.complete {log : NumberedLog} (hf : w.Fed task log.length)
    (hfit : log.length ≤ w.config.maxDisplayLines) {ticket : LoadTicket} {chunk : LogChunk} {o : LoadOutcome}
    (hcurrent : ticket.generation = w.generation → w.task = some ticket.task →
      w.inFlight = some ticket)
    (hread : log.read ticket.first ticket.last = .ok chunk)
    (h : w.complete ticket (.ok chunk) = .ok (w', o)) : w'.Fed task log.length := by
  rcases complete_eq h with ⟨-, rfl, -⟩ | ⟨hgen, htask, hcur⟩
  · exact hf
  have hflight := hcurrent hgen htask
  rw [if_pos hflight] at hcur
  cases hf with
  | closed hnone => rw [hnone] at htask; cases htask
  | loading htask' _ hdisplay hbuffer hpending hzero htail =>
    -- the ticket is the tail read
    rw [htail] at hflight
    cases hflight
    rcases hcur with ⟨hkind, -⟩ | ⟨-, hp⟩
    · cases hkind
    obtain ⟨hlines, htotal⟩ := NumberedLog.read_tail_numbers hread
    obtain ⟨lo, d, ha⟩ := applyPrimary_tail_abutting (w := { w with inFlight := none }) htask'
      hdisplay hbuffer hpending rfl hzero hfit (by rfl) (Nat.le_max_left _ _) (by omega) hlines
      htotal hp
    exact .tailIn ha
  | @tailIn lo d ha =>
    -- the ticket is the prefetch in flight
    obtain ⟨hloaded, hkind, hfirst, hle, hlast⟩ := ha.inFlight ticket hflight
    rcases hcur with ⟨-, hp⟩ | ⟨hkind', -⟩
    · obtain ⟨hlines, htotal⟩ := NumberedLog.read_range_numbers hfirst hread
      have hlo := ha.loaded
      have hcount : min ticket.last log.length + 1 - ticket.first = lo - ticket.first := by
        rcases hlo with ⟨-, -, hlon⟩ | ⟨hnone, -⟩
        · omega
        · rw [hloaded] at hnone
          cases hnone
      rw [hcount] at hlines
      obtain ⟨lo', ha'⟩ := Abutting.applyPrefetch (w := { w with inFlight := none })
        { ha with
          staged := fun p hp => by
            obtain ⟨hloaded', -, rest⟩ := ha.staged p hp
            exact ⟨hloaded', rfl, rest⟩
          inFlight := fun t ht => by cases ht }
        hfit rfl hloaded hfirst (by omega) hlines htotal hp
      exact .tailIn ha'
    · exact absurd hkind hkind'

end Window

namespace Session

/-- What a server whose log is `log` lets happen to the window of `task`: its lines
for each ticket, no range jump, and the next line streamed after the tail. -/
def Feeds (task : Nat) (log : NumberedLog) (w : Window) : WindowOp → Prop
  | .openTask k => k = task
  | .loadRange _ _ => False
  | .complete t r => ∃ chunk, log.read t.first t.last = .ok chunk ∧ r = .ok chunk
  | .append k l => k = task ∧ l = LogLine.numbered (log.length + 1) ∧ w.state ≠ .loading
  | _ => True

/-- The log after `op`: a streamed line is its next one. -/
def grown (log : NumberedLog) : WindowOp → NumberedLog
  | .append _ _ => ⟨log.length + 1⟩
  | _ => log

/-- The log's lines for a ticket are an answer a caller may give over the wire. -/
theorem wire_answers_read (log : NumberedLog) {t : LoadTicket} {chunk : LogChunk}
    (h : log.read t.first t.last = .ok chunk) : Caller.wire.answers t (.ok chunk) :=
  .inr ⟨_, _, _, h, rfl⟩

theorem length_le_grown (log : NumberedLog) (op : WindowOp) :
    log.length ≤ (grown log op).length := by
  cases op <;> simp [grown]

/-- Runs of a window fed by a server: each ticket is answered at most once, with
the lines the server's log holds for it, and the log grows by the lines it
streams. -/
inductive Served (task : Nat) (log₀ : NumberedLog) (s₀ : Session) :
    List WindowOp → NumberedLog → Session → Prop
  | nil : Served task log₀ s₀ [] log₀ s₀
  | snoc {ops : List WindowOp} {log : NumberedLog} {s s' : Session} {op : WindowOp} :
      Served task log₀ s₀ ops log s → Step Caller.wire s op s' → Feeds task log s.window op →
      Served task log₀ s₀ (ops ++ [op]) (grown log op) s'

variable {task : Nat} {log₀ log : NumberedLog} {s₀ s s' : Session} {ops : List WindowOp}
  {op : WindowOp}

/-- A served run goes on by one operation the window performs. -/
theorem Served.perform {w w' : Window} {held : List LoadTicket} {issued : Option LoadTicket}
    (h : Served task log₀ s₀ ops log ⟨w, held⟩) (op : WindowOp)
    (hallow : Caller.wire.Allows held op) (hperf : w.perform op = .ok (w', issued))
    (hfeeds : Feeds task log w op) :
    Served task log₀ s₀ (ops ++ [op]) (grown log op) ⟨w', Caller.wire.keep held op issued⟩ :=
  h.snoc (.mk hallow hperf) hfeeds

theorem Served.run (h : Served task log₀ s₀ ops log s) : Run Caller.wire s₀ ops s := by
  induction h with
  | nil => exact .nil
  | snoc _ hstep _ ih => exact ih.snoc hstep

theorem Step.config {caller : Caller} (h : Step caller s op s') :
    s'.window.config = s.window.config := by
  cases h with
  | mk _ hperf => exact Window.perform_config hperf

theorem Run.config {caller : Caller} {c : WindowConfig} (h : Run caller (start c) ops s) :
    s.window.config = c :=
  h.induction (fun s => s.window.config = c) (fun _ _ _ hc hs => hs.config.trans hc) rfl

/-- One served operation keeps the window in a stage of its task. -/
theorem Step.fed (h : Step Caller.wire s op s') (hf : s.window.Fed task log.length)
    (hlive : OneLive s) (hfit : (grown log op).length ≤ s.window.config.maxDisplayLines)
    (hfeeds : Feeds task log s.window op) : s'.window.Fed task (grown log op).length := by
  cases h with
  | @mk w held _ w' issued hallow hperf =>
  have hop := Window.perform_eq_ok hperf
  cases op with
  | openTask k =>
    cases hfeeds
    rw [hop.1]
    exact Window.fed_openTask w
  | reload =>
    cases htask : w.task with
    | none =>
      rw [Window.reload_of_none htask] at hop
      cases hop
      exact hf
    | some k =>
      rw [Window.reload_of_task htask] at hop
      cases hop
      cases hf.task_eq htask
      exact Window.fed_openTask w
  | close =>
    rw [hop.1]
    exact Window.fed_close w
  | loadRange first last => exact hfeeds.elim
  | complete ticket result =>
    obtain ⟨chunk, hread, rfl⟩ := hfeeds
    obtain ⟨-, o, hc⟩ := hop
    exact hf.complete hfit (fun hgen _ => hlive.current ticket hallow.1 hgen) hread hc
  | append k line =>
    obtain ⟨rfl, rfl, hstate⟩ := hfeeds
    obtain ⟨-, b, ha⟩ := hop
    exact hf.appendStreamed hfit hstate ha
  | flush =>
    obtain ⟨-, r, hflush⟩ := hop
    exact hf.flush hfit hflush
  | prefetch position height => exact hf.prefetchAbove hop
  | commit =>
    obtain ⟨-, b, hc⟩ := hop
    exact hf.commitPrefetch hfit hc
  | onScroll => exact hf.onScroll hfit hop
  | setRows _ | scroll _ | toTop | toBottom =>
    obtain ⟨-, sc, v, rfl⟩ := hop
    exact hf.frame sc v

theorem Served.fed {c : WindowConfig} (h : Served task log₀ (start c) ops log s)
    (hfit : log.length ≤ c.maxDisplayLines) : s.window.Fed task log.length := by
  induction h with
  | nil => exact Window.fed_new c
  | snoc hserved hstep hfeeds ih =>
    exact hstep.fed (ih (Nat.le_trans (length_le_grown _ _) hfit)) (hserved.run.oneLive rfl)
      (by rw [hserved.run.config]; exact hfit) hfeeds

/-- A window fed by a server shows one unbroken run of the log's lines, as long
as the log has no more lines than the display may hold. -/
theorem served_display_contiguous {c : WindowConfig} (h : Served task log₀ (start c) ops log s)
    (hfit : log.length ≤ c.maxDisplayLines) : s.window.display.Contiguous :=
  (h.fed hfit).contiguous

theorem served_display_contiguous_after_stream :
    ∃ s, Served 7 ⟨2⟩ (start {})
        [.openTask 7, .complete ⟨1, 7, .tail, 0, 0⟩
          (.ok ⟨[LogLine.numbered 1, LogLine.numbered 2], 2⟩),
          .append 7 (LogLine.numbered 3), .flush] ⟨3⟩ s ∧
      (⟨3⟩ : NumberedLog).length ≤ ({} : WindowConfig).maxDisplayLines ∧
      s.window.display.Contiguous := by
  have hrun := ((((Served.nil : Served 7 ⟨2⟩ (start {}) [] _ _).perform (.openTask 7)
    trivial rfl rfl).perform (.complete ⟨1, 7, .tail, 0, 0⟩
      (.ok ⟨[LogLine.numbered 1, LogLine.numbered 2], 2⟩))
    ⟨by decide, wire_answers_read ⟨2⟩ rfl⟩ rfl ⟨_, rfl, rfl⟩).perform
      (.append 7 (LogLine.numbered 3)) trivial rfl ⟨rfl, rfl, by decide⟩).perform .flush
    trivial rfl trivial
  exact ⟨_, hrun, by decide, served_display_contiguous hrun (by decide)⟩

/-- A display of at most ten lines, fed ten: from the top, line 11 is flushed in
and given away at the bottom; from the bottom, line 12 is flushed in below the
gap and line 1 gives way. -/
theorem display_gap_after_bottom_prune :
    ∃ s, Served 7 ⟨10⟩ (start { maxDisplayLines := 10 })
        [.setRows 1, .openTask 7,
          .complete ⟨1, 7, .tail, 0, 0⟩
            (.ok ⟨(List.range 10).map fun i => LogLine.numbered (i + 1), 10⟩),
          .toTop, .append 7 (LogLine.numbered 11), .flush, .toBottom,
          .append 7 (LogLine.numbered 12), .flush] ⟨12⟩ s ∧
      s.window.display.numbers = [2, 3, 4, 5, 6, 7, 8, 9, 10, 12] ∧
      ¬ s.window.display.Contiguous := by
  have hrun := ((((((((((Served.nil : Served 7 ⟨10⟩ (start { maxDisplayLines := 10 }) [] _ _).perform
    (.setRows 1) trivial rfl trivial).perform (.openTask 7) trivial rfl rfl).perform
      (.complete ⟨1, 7, .tail, 0, 0⟩
        (.ok ⟨(List.range 10).map fun i => LogLine.numbered (i + 1), 10⟩))
      ⟨by decide, wire_answers_read ⟨10⟩ rfl⟩ rfl ⟨_, rfl, rfl⟩).perform
    .toTop trivial rfl trivial).perform (.append 7 (LogLine.numbered 11)) trivial rfl
      ⟨rfl, rfl, by decide⟩).perform .flush trivial rfl trivial).perform
    .toBottom trivial rfl trivial).perform (.append 7 (LogLine.numbered 12)) trivial rfl
      ⟨rfl, rfl, by decide⟩).perform .flush trivial rfl trivial)
  exact ⟨_, hrun, by decide, by decide⟩

end Session

end TaskConsole
