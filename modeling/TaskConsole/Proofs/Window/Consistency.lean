import TaskConsole.Proofs.Window.Tickets

/-! The representation invariant of a log window (`Window.Consistent`), kept by every
operation along every run (`Session.reachable_window_consistent`). -/

namespace TaskConsole

namespace Window

variable {w w' : Window}

/-- What a window keeps of its lines, whatever its buffer holds. -/
structure Bounded (w : Window) : Prop where
  maxDisplay_pos : 0 < w.config.maxDisplayLines
  flushThreshold_pos : 0 < w.config.flushThreshold
  /-- The loaded range is a non-empty range of the log as far as it is known. -/
  loaded_within : ∀ r, w.loaded = some r → 1 ≤ r.first ∧ r.first ≤ r.last ∧ r.last ≤ w.totalLines
  display_within : ∀ l ∈ w.display.lines, 1 ≤ l.number ∧ l.number ≤ w.totalLines
  buffer_within : ∀ l ∈ w.buffer, 1 ≤ l.number ∧ l.number ≤ w.totalLines
  staged_within : ∀ p, w.pending = some p →
    1 ≤ p.range.first ∧ ∀ l ∈ p.lines, 1 ≤ l.number ∧ l.number ≤ w.totalLines
  display_bounded : w.display.size ≤ w.config.maxDisplayLines
  lines_shown : w.state = .lines → 0 < w.display.size
  idle_iff : w.state = .idle ↔ w.task = none
  /-- Without a task nothing is shown, buffered, staged, loaded or in flight. -/
  closed : w.task = none → w.display.lines = [] ∧ w.buffer = [] ∧ w.totalLines = 0 ∧
    w.loaded = none ∧ w.pending = none ∧ w.inFlight = none

/-- The representation invariant: bounded, with a buffer shorter than the flush
threshold. -/
structure Consistent (w : Window) : Prop extends Bounded w where
  buffer_short : w.buffer.length < w.config.flushThreshold

/-- `w'` comes after `w` in the same generation and knows the log to be no
shorter. -/
def Continues (w w' : Window) : Prop :=
  w'.generation = w.generation ∧ w.totalLines ≤ w'.totalLines

theorem Continues.refl (w : Window) : w.Continues w := ⟨rfl, Nat.le_refl _⟩

theorem Continues.trans {w₁ w₂ w₃ : Window} (h₁ : w₁.Continues w₂) (h₂ : w₂.Continues w₃) :
    w₁.Continues w₃ :=
  ⟨h₂.1.trans h₁.1, Nat.le_trans h₁.2 h₂.2⟩

theorem Bounded.consistent (hb : w.Bounded) (h : w.buffer.length < w.config.flushThreshold) :
    w.Consistent :=
  { hb with buffer_short := h }

theorem consistent_new {c : WindowConfig} (hmax : 0 < c.maxDisplayLines)
    (hflush : 0 < c.flushThreshold) : (Window.new c).Consistent where
  maxDisplay_pos := hmax
  flushThreshold_pos := hflush
  loaded_within := fun _ h => by cases h
  display_within := fun _ h => by cases h
  buffer_within := fun _ h => by cases h
  staged_within := fun _ h => by cases h
  display_bounded := Nat.zero_le _
  lines_shown := fun h => by cases h
  idle_iff := iff_of_true rfl rfl
  closed := fun _ => ⟨rfl, rfl, rfl, rfl, rfl, rfl⟩
  buffer_short := hflush

theorem Consistent.reset (hc : w.Consistent) : w.reset.Consistent where
  maxDisplay_pos := hc.maxDisplay_pos
  flushThreshold_pos := hc.flushThreshold_pos
  loaded_within := fun _ h => by cases h
  display_within := fun _ h => by cases h
  buffer_within := fun _ h => by cases h
  staged_within := fun _ h => by cases h
  display_bounded := Nat.zero_le _
  lines_shown := fun h => by cases h
  idle_iff := iff_of_true rfl rfl
  closed := fun _ => ⟨rfl, rfl, rfl, rfl, rfl, rfl⟩
  buffer_short := hc.flushThreshold_pos

theorem Consistent.openTask (hc : w.Consistent) (task : Nat) : (w.openTask task).1.Consistent := by
  rw [openTask_eq]
  exact { hc.reset with
    lines_shown := fun h => by cases h
    idle_iff := ⟨fun h => (by cases h), fun h => (by cases h)⟩
    closed := fun h => by cases h }

/-- While a task is open, the load in flight may change freely. -/
theorem Consistent.withInFlight (hc : w.Consistent) (htask : w.task ≠ none)
    (f : Option LoadTicket) : { w with inFlight := f }.Consistent :=
  { hc with closed := fun h => absurd h htask }

/-- While a task is open, the log may become known to be longer. -/
theorem Consistent.withTotal (hc : w.Consistent) (htask : w.task ≠ none) {n : Nat}
    (hn : w.totalLines ≤ n) : { w with totalLines := n }.Consistent :=
  { hc with
    loaded_within := fun r hr => by
      obtain ⟨h1, h2, h3⟩ := hc.loaded_within r hr
      exact ⟨h1, h2, Nat.le_trans h3 hn⟩
    display_within := fun l hl => by
      obtain ⟨h1, h2⟩ := hc.display_within l hl
      exact ⟨h1, Nat.le_trans h2 hn⟩
    buffer_within := fun l hl => by
      obtain ⟨h1, h2⟩ := hc.buffer_within l hl
      exact ⟨h1, Nat.le_trans h2 hn⟩
    staged_within := fun p hp => by
      obtain ⟨hfirst, hlines⟩ := hc.staged_within p hp
      exact ⟨hfirst, fun l hl => ⟨(hlines l hl).1, Nat.le_trans (hlines l hl).2 hn⟩⟩
    closed := fun h => absurd h htask }

theorem Consistent.loadRange (hc : w.Consistent) {first last : Nat} {t? : Option LoadTicket}
    (h : w.loadRange first last = .ok (w', t?)) : w'.Consistent := by
  rcases loadRange_eq_ok h with hp | ⟨task, htask, -, hp⟩
  · cases hp
    exact hc
  · cases hp
    exact { hc with
      staged_within := fun _ h => by cases h
      closed := fun h => nomatch htask.symm.trans h }

/-- A prefetch asks for lines inside the known log. -/
theorem Consistent.prefetchAbove (hc : w.Consistent) {position height : Nat}
    {t? : Option LoadTicket} (h : w.prefetchAbove position height = (w', t?)) :
    w'.Consistent ∧ w.Continues w' ∧
      ∀ t, t? = some t → 1 ≤ t.first ∧ t.first ≤ t.last ∧ t.last ≤ w.totalLines := by
  rcases prefetchAbove_eq h with ⟨rfl, rfl⟩ |
    ⟨task, loaded, htask, hloaded, -, -, -, -, hfirst, rfl, rfl⟩
  · exact ⟨hc, Continues.refl _, fun _ ht => by cases ht⟩
  · obtain ⟨-, hle, hlast⟩ := hc.loaded_within loaded hloaded
    refine ⟨hc.withInFlight (by simp [htask]) _, Continues.refl _, fun t ht => ?_⟩
    cases ht
    dsimp only
    omega

/-- Splicing staged lines in keeps them inside the known log and lowers the
loaded range to reach them. -/
theorem Consistent.commitPrefetch (hc : w.Consistent) {b : Bool}
    (h : w.commitPrefetch = .ok (w', b)) : w'.Consistent ∧ w.Continues w' := by
  rcases commitPrefetch_eq h with ⟨-, rfl, -⟩ | ⟨staged, d, s, hpending, -, rfl, hsub, hsize⟩
  · exact ⟨hc, Continues.refl _⟩
  · obtain ⟨hfirst, hstaged⟩ := hc.staged_within staged hpending
    have htask : w.task ≠ none := fun h => by
      rw [(hc.closed h).2.2.2.2.1] at hpending
      cases hpending
    have hbase : ∀ l ∈ (w.display.insertAll staged.lines).lines,
        1 ≤ l.number ∧ l.number ≤ w.totalLines := by
      intro l hl
      rcases LineMap.mem_insertAll hl with hl | hl
      · exact hc.display_within l hl
      · exact hstaged l hl
    refine ⟨{ hc with
      loaded_within := fun r hr => ?_
      display_within := fun l hl => hbase l (hsub.subset hl)
      staged_within := fun _ hp => by cases hp
      display_bounded := by
        dsimp only
        rw [hsize]
        exact Nat.min_le_right _ _
      lines_shown := fun hs => by
        dsimp only
        rw [hsize]
        exact Nat.lt_min.mpr ⟨Nat.lt_of_lt_of_le (hc.lines_shown hs)
          (LineMap.size_le_insertAll _ _), hc.maxDisplay_pos⟩
      closed := fun h => absurd h htask }, Continues.refl _⟩
    obtain ⟨r₀, hr₀, rfl⟩ := Option.map_eq_some_iff.mp hr
    obtain ⟨h1, h2, h3⟩ := hc.loaded_within r₀ hr₀
    exact ⟨by dsimp only; omega, by dsimp only; omega, h3⟩

/-- A flush moves buffered lines, which lie in the known log, into the display,
and leaves the buffer empty. -/
theorem Bounded.flush (hb : w.Bounded) {r : FlushReport} (h : w.flush = .ok (w', r)) :
    w'.Consistent ∧ w.Continues w' := by
  rcases flush_eq h with ⟨hnil, rfl⟩ | ⟨d, s, hne, rfl, hsub, hsize⟩
  · exact ⟨hb.consistent (by rw [hnil]; exact hb.flushThreshold_pos), Continues.refl _⟩
  · have htask : w.task ≠ none := fun h => hne (hb.closed h).2.1
    have hbase : ∀ l ∈ (w.display.insertAll (sortedBatch w.buffer)).lines,
        1 ≤ l.number ∧ l.number ≤ w.totalLines := by
      intro l hl
      rcases LineMap.mem_insertAll hl with hl | hl
      · exact hb.display_within l hl
      · exact hb.buffer_within l (mem_sortedBatch.mp hl)
    refine ⟨{ hb with
      display_within := fun l hl => hbase l (hsub.subset hl)
      buffer_within := fun _ hl => by cases hl
      display_bounded := by
        dsimp only
        rw [hsize]
        exact Nat.min_le_right _ _
      -- the batch is not empty, so lines are shown whatever the state
      lines_shown := fun _ => by
        dsimp only
        rw [hsize]
        exact Nat.lt_min.mpr ⟨LineMap.size_insertAll_pos (sortedBatch_ne_nil hne),
          hb.maxDisplay_pos⟩
      idle_iff := by
        dsimp only
        split
        · exact ⟨fun h => (by cases h), fun h => absurd h htask⟩
        · exact hb.idle_iff
      closed := fun h => absurd h htask
      buffer_short := hb.flushThreshold_pos }, Continues.refl _⟩

/-- A streamed line lies in the log it raises the known length of, and a buffer
that reaches the threshold is flushed. -/
theorem Consistent.appendStreamed (hc : w.Consistent) {task : Nat} {l : LogLine} {b : Bool}
    (h : w.appendStreamed task l = .ok (w', b)) : w'.Consistent ∧ w.Continues w' := by
  rcases appendStreamed_eq h with ⟨-, rfl⟩ | ⟨htask, hnum, first, w₁, hfirst, hw₁, hw'⟩
  · exact ⟨hc, Continues.refl _⟩
  · have htask' : w.task ≠ none := by simp [htask]
    have hfirst' : 1 ≤ first ∧ first ≤ l.number := by
      rcases hfirst with ⟨-, rfl⟩ | ⟨r, hr, rfl⟩
      · omega
      · have := (hc.loaded_within r hr).1
        omega
    have hb₁ : w₁.Bounded := by
      subst hw₁
      exact { hc.toBounded with
        loaded_within := fun r hr => by
          cases hr
          refine ⟨hfirst'.1, ?_, Nat.le_refl _⟩
          dsimp only
          omega
        display_within := fun l' hl' => by
          obtain ⟨h1, h2⟩ := hc.display_within l' hl'
          exact ⟨h1, Nat.le_trans h2 (Nat.le_max_left _ _)⟩
        buffer_within := fun l' hl' => by
          rcases List.mem_append.mp hl' with hl' | hl'
          · obtain ⟨h1, h2⟩ := hc.buffer_within l' hl'
            exact ⟨h1, Nat.le_trans h2 (Nat.le_max_left _ _)⟩
          · obtain rfl := List.mem_singleton.mp hl'
            exact ⟨by omega, Nat.le_max_right _ _⟩
        staged_within := fun p hp => by
          obtain ⟨hfirst, hlines⟩ := hc.staged_within p hp
          exact ⟨hfirst, fun l' hl' =>
            ⟨(hlines l' hl').1, Nat.le_trans (hlines l' hl').2 (Nat.le_max_left _ _)⟩⟩
        closed := fun h => absurd h htask' }
    have hcont : w.Continues w₁ := by
      subst hw₁
      exact ⟨rfl, Nat.le_max_left _ _⟩
    rcases hw' with ⟨hshort, rfl⟩ | ⟨-, r, hflush⟩
    · exact ⟨hb₁.consistent (by subst hw₁; exact hshort), hcont⟩
    · obtain ⟨h', hcont'⟩ := hb₁.flush hflush
      exact ⟨h', hcont.trans hcont'⟩

/-- The range a primary result loads: from its first line, or the first streamed
line past it when it has none, to the last of both. -/
theorem primaryRange_bounds {lines : List LogLine} {newer : List Nat} {lo hi : Nat}
    (hasc : Ascending lines) (hpos : ∀ l ∈ lines, 1 ≤ l.number) (hnewer : ∀ n ∈ newer, 1 ≤ n)
    (hlo : (lines.head?.map (·.number) <|> newer.min?) = some lo)
    (hhi : max (lines.getLast?.map (·.number)) newer.max? = some hi) :
    1 ≤ lo ∧ lo ≤ hi ∧ ∀ l ∈ lines, l.number ≤ hi := by
  have hlines : ∀ l ∈ lines, l.number ≤ hi := by
    intro l hl
    cases hz : lines.getLast? with
    | none =>
      rw [List.getLast?_eq_none_iff] at hz
      subst hz
      cases hl
    | some z =>
      have hlz := hasc.le_getLast hz hl
      rw [hz] at hhi
      have : z.number ≤ hi := by
        cases hm : newer.max? <;> simp [hm] at hhi <;> omega
      omega
  have hnewer_le : ∀ n ∈ newer, n ≤ hi := by
    intro n hn
    cases hm : newer.max? with
    | none =>
      rw [List.max?_eq_none_iff] at hm
      subst hm
      cases hn
    | some m =>
      have hnm := (List.max?_eq_some_iff.mp hm).2 n hn
      rw [hm] at hhi
      have : m ≤ hi := by
        cases hz : lines.getLast? <;> simp [hz] at hhi <;> omega
      omega
  -- the lower end is the first line taken, or else the least streamed number
  cases lines with
  | nil =>
    simp only [List.head?_nil, Option.map_none, Option.orElse_eq_orElse, Option.orElse_eq_or,
      Option.none_or] at hlo
    have hmem := List.min?_mem hlo
    exact ⟨hnewer lo hmem, hnewer_le lo hmem, fun _ h => nomatch h⟩
  | cons x xs =>
    simp only [List.head?_cons, Option.map_some, Option.orElse_eq_orElse, Option.orElse_eq_or,
      Option.some_or] at hlo
    cases hlo
    exact ⟨hpos x List.mem_cons_self, hlines x List.mem_cons_self, hlines⟩

/-- A primary result replaces the display with lines of the result and lines
streamed past it, all inside the log as now known, and prunes it. -/
theorem Consistent.applyPrimary (hc : w.Consistent) (htask : w.task ≠ none)
    {ticket : LoadTicket} {result : Except LoadError LogChunk} {o : LoadOutcome}
    (hchunk : ∀ chunk, result = .ok chunk →
      Ascending chunk.lines ∧ ∀ l ∈ chunk.lines, 1 ≤ l.number)
    (h : w.applyPrimary ticket result = .ok (w', o)) : w'.Consistent ∧ w.Continues w' := by
  rcases applyPrimary_cases h with ⟨e, -, rfl⟩ | ⟨chunk, rfl, hne⟩
  · exact ⟨{ hc with
      loaded_within := fun _ h => by cases h
      display_within := fun _ h => by cases h
      display_bounded := Nat.zero_le _
      lines_shown := fun h => by cases h
      idle_iff := ⟨fun h => (by cases h), fun h => absurd h htask⟩
      closed := fun h => absurd h htask }, Continues.refl _⟩
  obtain ⟨hasc, hpos⟩ := hchunk chunk rfl
  obtain ⟨lines, hlines⟩ : ∃ lines, lines = w.primaryLines ticket.kind chunk.lines := ⟨_, rfl⟩
  have hsub : List.Sublist lines chunk.lines := hlines ▸ primaryLines_sublist _ _
  have hasc' : Ascending lines := List.Pairwise.sublist hsub hasc
  have hpos' : ∀ l ∈ lines, 1 ≤ l.number := fun l hl => hpos l (hsub.subset hl)
  obtain ⟨-, streamed, buffer, newer, hsrc, hcase⟩ := applyPrimary_applied hlines hne h
  -- streamed lines, the buffer kept and the newer numbers all come from the window
  obtain ⟨hstreamed, hbuffer, hnewer⟩ := streamed_sources hsrc
  have hnewer_within : ∀ n ∈ newer, 1 ≤ n ∧ n ≤ w.totalLines := by
    intro n hn
    rcases hnewer n hn with hn | hn
    · obtain ⟨l, hl, rfl⟩ := List.mem_map.mp hn
      exact hc.display_within l (hstreamed.subset hl)
    · obtain ⟨l, hl, rfl⟩ := List.mem_map.mp hn
      exact hc.buffer_within l (hbuffer.subset hl)
  have hbase : ∀ l ∈ ((LineMap.ofList lines).insertAll streamed.lines).lines,
      l ∈ lines ∨ 1 ≤ l.number ∧ l.number ≤ w.totalLines := by
    intro l hl
    rcases LineMap.mem_insertAll hl with hl | hl
    · exact .inl (LineMap.mem_ofList hl)
    · exact .inr (hc.display_within l (hstreamed.subset hl))
  have hbuffer_short : buffer.length < w.config.flushThreshold :=
    Nat.lt_of_le_of_lt hbuffer.length_le hc.buffer_short
  rcases hcase with ⟨hnone, rfl⟩ | ⟨lo, hi, d, s, hlo, hhi, rfl, hdsub, hdsize⟩
  · -- nothing loaded: no line was taken, and only streamed lines stay
    have hnil : lines = [] := by
      cases lines with
      | nil => rfl
      | cons x xs => simp at hnone
    subst hnil
    have htotal : w.totalLines ≤ max w.totalLines chunk.totalLines := Nat.le_max_left _ _
    refine ⟨{ hc with
      loaded_within := fun _ h => by cases h
      display_within := fun l hl => ?_
      buffer_within := fun l hl => ?_
      staged_within := fun p hp => ?_
      display_bounded := ?_
      lines_shown := fun h => by cases h
      idle_iff := ⟨fun h => (by cases h), fun h => absurd h htask⟩
      closed := fun h => absurd h htask
      buffer_short := hbuffer_short }, rfl, htotal⟩
    · rcases hbase l hl with hl | ⟨h1, h2⟩
      · cases hl
      · exact ⟨h1, Nat.le_trans h2 htotal⟩
    · obtain ⟨h1, h2⟩ := hc.buffer_within l (hbuffer.subset hl)
      exact ⟨h1, Nat.le_trans h2 htotal⟩
    · obtain ⟨hfirst, hstaged⟩ := hc.staged_within p hp
      exact ⟨hfirst, fun l hl => ⟨(hstaged l hl).1, Nat.le_trans (hstaged l hl).2 htotal⟩⟩
    · dsimp only
      have hle := LineMap.size_insertAll_le (LineMap.ofList []) streamed.lines
      have hempty : (LineMap.ofList ([] : List LogLine)).size = 0 := rfl
      have hlen := hstreamed.length_le
      have hmax := hc.display_bounded
      simp only [LineMap.size] at hle hempty hmax ⊢
      omega
  · -- the loaded range spans the lines taken and the lines streamed past them
    obtain ⟨hlo1, hlohi, hlines_le⟩ := primaryRange_bounds hasc' hpos'
      (fun n hn => (hnewer_within n hn).1) hlo hhi
    have htotal : w.totalLines ≤ max (max w.totalLines chunk.totalLines) hi := by omega
    have hhi_le : hi ≤ max (max w.totalLines chunk.totalLines) hi := Nat.le_max_right _ _
    refine ⟨{ hc with
      loaded_within := fun r hr => by
        cases hr
        exact ⟨hlo1, hlohi, hhi_le⟩
      display_within := fun l hl => ?_
      buffer_within := fun l hl => ?_
      staged_within := fun p hp => ?_
      display_bounded := by
        dsimp only
        rw [hdsize]
        exact Nat.min_le_right _ _
      lines_shown := fun hs => ?_
      idle_iff := ⟨fun h => (by dsimp only at h; split at h <;> cases h),
        fun h => absurd h htask⟩
      closed := fun h => absurd h htask
      buffer_short := hbuffer_short }, rfl, htotal⟩
    · rcases hbase l (hdsub.subset hl) with hl | ⟨h1, h2⟩
      · exact ⟨hpos' l hl, Nat.le_trans (hlines_le l hl) hhi_le⟩
      · exact ⟨h1, Nat.le_trans h2 htotal⟩
    · obtain ⟨h1, h2⟩ := hc.buffer_within l (hbuffer.subset hl)
      exact ⟨h1, Nat.le_trans h2 htotal⟩
    · obtain ⟨hfirst, hstaged⟩ := hc.staged_within p hp
      exact ⟨hfirst, fun l hl => ⟨(hstaged l hl).1, Nat.le_trans (hstaged l hl).2 htotal⟩⟩
    · -- lines are shown only when the base display was not empty
      dsimp only at hs ⊢
      rw [hdsize]
      split at hs
      · cases hs
      · exact Nat.lt_min.mpr ⟨Nat.pos_of_ne_zero ‹_›, hc.maxDisplay_pos⟩

/-- A prefetch result stages lines of the result, which lie in the known log,
and splices them in when the view is near the top. -/
theorem Consistent.applyPrefetch (hc : w.Consistent) (htask : w.task ≠ none)
    {result : Except LoadError LogChunk} {o : LoadOutcome}
    (hchunk : ∀ chunk, result = .ok chunk →
      ∀ l ∈ chunk.lines, 1 ≤ l.number ∧ l.number ≤ w.totalLines)
    (h : w.applyPrefetch result = .ok (w', o)) : w'.Consistent ∧ w.Continues w' := by
  rcases applyPrefetch_eq h with ⟨e, -, -, rfl⟩ | ⟨chunk, rfl, -, hcase⟩
  · exact ⟨hc, Continues.refl _⟩
  have htotal : w.totalLines ≤ max w.totalLines chunk.totalLines := Nat.le_max_left _ _
  have hraised := hc.withTotal htask htotal
  rcases hcase with ⟨-, rfl⟩ | ⟨lo, hi, w₁, hlo, -, hw₁, hw'⟩
  · exact ⟨{ hraised with }, rfl, htotal⟩
  · have hstaged : ∀ l ∈ chunk.lines.filter (·.number < w.loadedStart),
        1 ≤ l.number ∧ l.number ≤ w.totalLines :=
      fun l hl => hchunk chunk rfl l (List.mem_filter.mp hl).1
    have h₁ : w₁.Consistent := by
      subst hw₁
      exact { hraised with
        staged_within := fun p hp => by
          cases hp
          exact ⟨(hstaged lo (List.mem_of_head? hlo)).1,
            fun l hl => ⟨(hstaged l hl).1, Nat.le_trans (hstaged l hl).2 htotal⟩⟩
        closed := fun h => absurd h htask }
    have hcont : w.Continues w₁ := by
      subst hw₁
      exact ⟨rfl, htotal⟩
    rcases hw' with ⟨-, b, hcommit⟩ | ⟨-, rfl⟩
    · obtain ⟨h', hcont'⟩ := h₁.commitPrefetch hcommit
      exact ⟨h', hcont.trans hcont'⟩
    · exact ⟨h₁, hcont⟩

/-- Taking a result keeps the invariant when the result's lines ascend from 1,
and a prefetch of the current generation brings lines inside the known log. -/
theorem Consistent.complete (hc : w.Consistent) {ticket : LoadTicket}
    {result : Except LoadError LogChunk} {o : LoadOutcome}
    (hchunk : ∀ chunk, result = .ok chunk → Ascending chunk.lines ∧
      ∀ l ∈ chunk.lines, 1 ≤ l.number ∧
        (ticket.generation = w.generation → ticket.kind = .prefetch → l.number ≤ w.totalLines))
    (h : w.complete ticket result = .ok (w', o)) : w'.Consistent ∧ w.Continues w' := by
  rcases complete_eq h with ⟨-, rfl, -⟩ | ⟨hgen, htask, hcur⟩
  · exact ⟨hc, Continues.refl _⟩
  · have htask' : w.task ≠ none := by simp [htask]
    have hc₀ := hc.withInFlight htask' (if w.inFlight = some ticket then none else w.inFlight)
    rcases hcur with ⟨hkind, hp⟩ | ⟨-, hp⟩
    · exact hc₀.applyPrefetch htask' (fun chunk hr l hl =>
        ⟨((hchunk chunk hr).2 l hl).1, ((hchunk chunk hr).2 l hl).2 hgen hkind⟩) hp
    · exact hc₀.applyPrimary htask' (fun chunk hr =>
        ⟨(hchunk chunk hr).1, fun l hl => ((hchunk chunk hr).2 l hl).1⟩) hp

theorem Consistent.onScroll (hc : w.Consistent) {t? : Option LoadTicket}
    (h : w.onScroll = .ok (w', t?)) :
    w'.Consistent ∧ w.Continues w' ∧
      ∀ t, t? = some t → 1 ≤ t.first ∧ t.first ≤ t.last ∧ t.last ≤ w.totalLines := by
  obtain ⟨w₁, hp, hcommit⟩ := onScroll_eq h
  obtain ⟨h₁, hcont₁, hticket⟩ := hc.prefetchAbove hp
  rcases hcommit with ⟨-, -, b, hc'⟩ | ⟨-, rfl⟩
  · obtain ⟨h', hcont'⟩ := h₁.commitPrefetch hc'
    exact ⟨h', hcont₁.trans hcont', hticket⟩
  · exact ⟨h₁, hcont₁, hticket⟩

end Window

namespace Session

variable {s s' : Session} {op : WindowOp}

/-- Every held prefetch ticket of the current generation asks for lines inside
the log as far as it is known. -/
def PrefetchWithin (s : Session) : Prop :=
  ∀ t ∈ s.held, t.generation = s.window.generation → t.kind = .prefetch →
    1 ≤ t.first ∧ t.first ≤ t.last ∧ t.last ≤ s.window.totalLines

/-- A consistent window, held tickets no newer than it, and held prefetch
tickets inside the known log. -/
structure Consistent (s : Session) : Prop where
  window : s.window.Consistent
  dated : TicketsDated s
  prefetch_within : PrefetchWithin s

/-- After a step that opens a new generation with no prefetch, or continues the
generation handing out at most a prefetch inside the known log, held prefetch
tickets are still inside the known log. -/
theorem PrefetchWithin.keep (hp : PrefetchWithin s) (hd : TicketsDated s)
    {issued : Option LoadTicket} (hheld : ∀ t ∈ s'.held, t ∈ s.held ∨ issued = some t)
    (hw : s'.window.generation = s.window.generation + 1 ∧
        (∀ t, issued = some t → t.kind ≠ .prefetch) ∨
      s.window.Continues s'.window ∧
        ∀ t, issued = some t → 1 ≤ t.first ∧ t.first ≤ t.last ∧ t.last ≤ s.window.totalLines) :
    PrefetchWithin s' := by
  intro t ht hgen hkind
  rcases hw with ⟨hfresh, hnot⟩ | ⟨hcont, hbounds⟩
  · -- only the ticket the new generation handed out is current, and it is no prefetch
    rcases hheld t ht with ht | ht
    · have := (hd t ht).1
      omega
    · exact absurd hkind (hnot t ht)
  · obtain ⟨h1, h2, h3⟩ : 1 ≤ t.first ∧ t.first ≤ t.last ∧ t.last ≤ s.window.totalLines := by
      rcases hheld t ht with ht | ht
      · exact hp t ht (hgen.trans hcont.1) hkind
      · exact hbounds t ht
    exact ⟨h1, h2, Nat.le_trans h3 hcont.2⟩

/-- What the wire caller answers: lines ascending from 1, and for a current
prefetch, lines inside the known log. -/
theorem Consistent.answer_lines (hc : s.Consistent) {t : LoadTicket}
    {r : Except LoadError LogChunk} (hallow : Caller.wire.Allows s.held (.complete t r)) :
    ∀ chunk, r = .ok chunk → Ascending chunk.lines ∧ ∀ l ∈ chunk.lines, 1 ≤ l.number ∧
      (t.generation = s.window.generation → t.kind = .prefetch →
        l.number ≤ s.window.totalLines) := by
  intro chunk hr
  obtain ⟨hheld, hanswer⟩ := hallow
  rcases hanswer with ⟨e, rfl⟩ | ⟨texts, total, chunk', hof, rfl⟩
  · cases hr
  · cases hr
    obtain ⟨hasc, hpos, hle⟩ := LogChunk.ofTexts_lines hof
    refine ⟨hasc, fun l hl => ⟨hpos l hl, fun hgen hkind => ?_⟩⟩
    obtain ⟨h1, h2, h3⟩ := hc.prefetch_within t hheld hgen hkind
    exact Nat.le_trans (hle h1 h2 l hl) h3

theorem Consistent.step (hc : s.Consistent) (h : Step Caller.wire s op s') : s'.Consistent := by
  have hdated := hc.dated.step h
  cases h with
  | @mk w held _ w' issued hallow hperf =>
  have hwin : w.Consistent := hc.window
  -- each operation keeps the window consistent, and opens a new generation or
  -- continues the current one
  suffices hnext : w'.Consistent ∧
      (w'.generation = w.generation + 1 ∧ (∀ t, issued = some t → t.kind ≠ .prefetch) ∨
        w.Continues w' ∧
          ∀ t, issued = some t → 1 ≤ t.first ∧ t.first ≤ t.last ∧ t.last ≤ w.totalLines) from
    ⟨hnext.1, hdated, hc.prefetch_within.keep hc.dated (fun _ ht => mem_keep ht) hnext.2⟩
  have hop := Window.perform_eq_ok hperf
  have hquiet : issued = none → ∀ t, issued = some t →
      1 ≤ t.first ∧ t.first ≤ t.last ∧ t.last ≤ w.totalLines := by
    rintro rfl t ht
    cases ht
  cases op with
  | openTask task =>
    obtain ⟨rfl, rfl⟩ := hop
    exact ⟨hwin.openTask task, .inl ⟨rfl, fun t ht => by cases ht; simp [Window.openTask_eq]⟩⟩
  | reload =>
    cases htask : w.task with
    | none =>
      rw [Window.reload_of_none htask] at hop
      cases hop
      exact ⟨hwin, .inr ⟨Window.Continues.refl _, hquiet rfl⟩⟩
    | some task =>
      rw [Window.reload_of_task htask] at hop
      cases hop
      exact ⟨hwin.openTask task,
        .inl ⟨rfl, fun t ht => by cases ht; simp [Window.openTask_eq]⟩⟩
  | close =>
    obtain ⟨rfl, rfl⟩ := hop
    exact ⟨hwin.reset, .inl ⟨rfl, fun _ ht => by cases ht⟩⟩
  | loadRange first last =>
    rcases hop with hr | ⟨-, rfl, rfl⟩
    · rcases Window.loadRange_eq_ok hr with hp | ⟨task, -, -, hp⟩
      · cases hp
        exact ⟨hwin, .inr ⟨Window.Continues.refl _, hquiet rfl⟩⟩
      · cases hp
        exact ⟨hwin.loadRange hr, .inl ⟨rfl, fun t ht => by cases ht; simp⟩⟩
    · exact ⟨hwin, .inr ⟨Window.Continues.refl _, hquiet rfl⟩⟩
  | complete t r =>
    obtain ⟨rfl, o, hcomp⟩ := hop
    obtain ⟨h', hcont⟩ := hwin.complete (hc.answer_lines hallow) hcomp
    exact ⟨h', .inr ⟨hcont, hquiet rfl⟩⟩
  | append task l =>
    obtain ⟨rfl, b, ha⟩ := hop
    obtain ⟨h', hcont⟩ := hwin.appendStreamed ha
    exact ⟨h', .inr ⟨hcont, hquiet rfl⟩⟩
  | flush =>
    obtain ⟨rfl, r, hf⟩ := hop
    obtain ⟨h', hcont⟩ := hwin.toBounded.flush hf
    exact ⟨h', .inr ⟨hcont, hquiet rfl⟩⟩
  | prefetch position height =>
    obtain ⟨h', hcont, hticket⟩ := hwin.prefetchAbove hop
    exact ⟨h', .inr ⟨hcont, hticket⟩⟩
  | commit =>
    obtain ⟨rfl, b, hcommit⟩ := hop
    obtain ⟨h', hcont⟩ := hwin.commitPrefetch hcommit
    exact ⟨h', .inr ⟨hcont, hquiet rfl⟩⟩
  | onScroll =>
    obtain ⟨h', hcont, hticket⟩ := hwin.onScroll hop
    exact ⟨h', .inr ⟨hcont, hticket⟩⟩
  | setRows _ | scroll _ | toTop | toBottom =>
    obtain ⟨rfl, sc, v, rfl⟩ := hop
    exact ⟨{ hwin with }, .inr ⟨Window.Continues.refl _, hquiet rfl⟩⟩

theorem consistent_start {c : WindowConfig} (hmax : 0 < c.maxDisplayLines)
    (hflush : 0 < c.flushThreshold) : (start c).Consistent :=
  ⟨Window.consistent_new hmax hflush, fun _ ht => (by cases ht), fun _ ht => (by cases ht)⟩

theorem Run.consistent {c : WindowConfig} (hmax : 0 < c.maxDisplayLines)
    (hflush : 0 < c.flushThreshold) {ops : List WindowOp}
    (h : Run Caller.wire (start c) ops s) : s.Consistent :=
  h.induction _ (fun _ _ _ hc hs => hc.step hs) (consistent_start hmax hflush)

/-- Whatever operations a caller performs, answering each ticket at most once
with an error or the lines the logs endpoint numbered for the ticket's bounds,
every window reached is consistent. -/
theorem reachable_window_consistent {c : WindowConfig} (hmax : 0 < c.maxDisplayLines)
    (hflush : 0 < c.flushThreshold) {ops : List WindowOp}
    (h : Run Caller.wire (start c) ops s) : s.window.Consistent :=
  (h.consistent hmax hflush).window

/-- Opening a task and streaming a line past the tail still loading. -/
theorem reachable_window_consistent_after_stream :
    0 < ({} : WindowConfig).maxDisplayLines ∧ 0 < ({} : WindowConfig).flushThreshold ∧
      Run Caller.wire (start {}) [.openTask 7, .append 7 ⟨3, "c"⟩]
        ⟨{ ((Window.new {}).openTask 7).1 with
            totalLines := 3
            loaded := some ⟨3, 3⟩
            buffer := [⟨3, "c"⟩] }, [⟨1, 7, .tail, 0, 0⟩]⟩ ∧
      Window.Consistent { ((Window.new {}).openTask 7).1 with
        totalLines := 3
        loaded := some ⟨3, 3⟩
        buffer := [⟨3, "c"⟩] } :=
  have hrun : Run Caller.wire (start {}) [.openTask 7, .append 7 ⟨3, "c"⟩]
      ⟨{ ((Window.new {}).openTask 7).1 with
          totalLines := 3
          loaded := some ⟨3, 3⟩
          buffer := [⟨3, "c"⟩] }, [⟨1, 7, .tail, 0, 0⟩]⟩ :=
    (Run.nil.snoc (Step.of_perform (by trivial) rfl rfl)).snoc
      (Step.of_perform (by trivial) rfl rfl)
  ⟨by decide, by decide, hrun, reachable_window_consistent (by decide) (by decide) hrun⟩

end Session

end TaskConsole
