import TaskConsole.Proofs.Window.Consistency
import TaskConsole.Proofs.Window.Contiguity

/-! The header names a range that covers every line shown (`header_covers_display`),
unless a range result arrives while streamed lines wait (`header_omits_buffered_line`). -/

namespace TaskConsole

namespace LineRange

/-- Every line of `ls` lies in the range. -/
def Spans (r : LineRange) (ls : List LogLine) : Prop :=
  ∀ l ∈ ls, r.first ≤ l.number ∧ l.number ≤ r.last

theorem spans_nil (r : LineRange) : r.Spans [] := fun _ h => by cases h

theorem Spans.widen {r r' : LineRange} {ls : List LogLine} (h : r.Spans ls)
    (hfirst : r'.first ≤ r.first) (hlast : r.last ≤ r'.last) : r'.Spans ls := fun l hl => by
  have := h l hl
  omega

theorem Spans.sublist {r : LineRange} {ls ls' : List LogLine} (h : r.Spans ls)
    (hsub : List.Sublist ls' ls) : r.Spans ls' := fun l hl => h l (hsub.subset hl)

/-- The lines of a map with a batch inserted lie in every range that holds the
map's lines and the batch. -/
theorem Spans.insertAll {r : LineRange} {m : LineMap} {ls : List LogLine} (hm : r.Spans m.lines)
    (hls : r.Spans ls) : r.Spans (m.insertAll ls).lines := fun l hl => by
  rcases LineMap.mem_insertAll hl with hl | hl
  · exact hm l hl
  · exact hls l hl

end LineRange

namespace Window

variable {w w' : Window}

/-- The window shows a failed load. -/
def Failed (w : Window) : Prop := ∃ m, w.state = .error m

/-- What a window keeps inside its loaded range: display, buffer and staged lines,
and nothing without a range, unless it shows a failure. -/
structure Covered (w : Window) : Prop where
  lines_loaded : w.state = .lines → w.loaded ≠ none
  display_spanned : ¬ w.Failed → ∀ r, w.loaded = some r → r.Spans w.display.lines
  buffer_spanned : ¬ w.Failed → ∀ r, w.loaded = some r → r.Spans w.buffer
  unloaded : ¬ w.Failed → w.loaded = none → w.display.lines = [] ∧ w.buffer = []
  staged : ∀ p, w.pending = some p → w.state = .lines ∧ w.inFlight = none ∧
    ∃ r, w.loaded = some r ∧ LineRange.Spans ⟨p.range.first, r.last⟩ p.lines
  prefetch_shown : ∀ t, w.inFlight = some t → t.kind = .prefetch →
    w.state = .lines ∧ w.loaded ≠ none

theorem not_failed_of_lines (h : w.state = .lines) : ¬ w.Failed := fun ⟨_, hm⟩ => by
  rw [h] at hm
  cases hm

theorem covered_reset (w : Window) : w.reset.Covered where
  lines_loaded := fun h => by cases h
  display_spanned := fun _ _ h => by cases h
  buffer_spanned := fun _ _ h => by cases h
  unloaded := fun _ _ => ⟨rfl, rfl⟩
  staged := fun _ h => by cases h
  prefetch_shown := fun _ h => by cases h

theorem covered_openTask (w : Window) (task : Nat) : (w.openTask task).1.Covered := by
  rw [openTask_eq]
  exact { lines_loaded := fun h => by cases h
          display_spanned := fun _ _ h => by cases h
          buffer_spanned := fun _ _ h => by cases h
          unloaded := fun _ _ => ⟨rfl, rfl⟩
          staged := fun _ h => by cases h
          prefetch_shown := fun _ h hk => by cases h; cases hk }

theorem Covered.loadRange (hc : w.Covered) {first last : Nat} {t? : Option LoadTicket}
    (h : w.loadRange first last = .ok (w', t?)) : w'.Covered := by
  rcases loadRange_eq_ok h with hp | ⟨task, -, -, hp⟩
  · cases hp
    exact hc
  · cases hp
    exact { hc with
      staged := fun _ h => by cases h
      prefetch_shown := fun _ h hk => by cases h; cases hk }

theorem Covered.prefetchAbove (hc : w.Covered) {position height : Nat} {t? : Option LoadTicket}
    (h : w.prefetchAbove position height = (w', t?)) : w'.Covered := by
  rcases prefetchAbove_eq h with ⟨-, rfl⟩ |
    ⟨task, loaded, -, hloaded, hstate, -, -, hpending, -, rfl, rfl⟩
  · exact hc
  · exact { hc with
      staged := fun p hp => by cases hpending.symm.trans hp
      prefetch_shown := fun _ _ _ => ⟨hstate, by simp [hloaded]⟩ }

/-- Splicing lowers the loaded range to the staged lines, which end inside it. -/
theorem Covered.commitPrefetch (hc : w.Covered) {b : Bool} (h : w.commitPrefetch = .ok (w', b)) :
    w'.Covered := by
  rcases commitPrefetch_eq h with ⟨-, rfl, -⟩ | ⟨staged, d, s, hpending, -, rfl, hsub, -⟩
  · exact hc
  obtain ⟨hstate, hflight, r, hr, hspan⟩ := hc.staged staged hpending
  have hok := not_failed_of_lines hstate
  have hloaded : (w.loaded.map fun r => { r with first := min r.first staged.range.first }) =
      some ⟨min r.first staged.range.first, r.last⟩ := by
    simp [hr]
  have hwide : LineRange.Spans ⟨min r.first staged.range.first, r.last⟩ w.display.lines :=
    (hc.display_spanned hok r hr).widen (Nat.min_le_left _ _) (Nat.le_refl _)
  refine { lines_loaded := fun _ => by simp [hloaded]
           display_spanned := fun _ r' hr' => ?_
           buffer_spanned := fun _ r' hr' => ?_
           unloaded := fun _ hnone => by simp [hloaded] at hnone
           staged := fun _ hp => by cases hp
           prefetch_shown := fun t ht hk => ⟨(hc.prefetch_shown t ht hk).1, by simp [hloaded]⟩ }
  · rw [hloaded] at hr'
    cases hr'
    exact (hwide.insertAll (hspan.widen (Nat.min_le_right _ _) (Nat.le_refl _))).sublist hsub
  · rw [hloaded] at hr'
    cases hr'
    exact (hc.buffer_spanned hok r hr).widen (Nat.min_le_left _ _) (Nat.le_refl _)

/-- A flush moves the buffer, which lies in the loaded range, into the display. -/
theorem Covered.flush (hc : w.Covered) {r : FlushReport} (h : w.flush = .ok (w', r)) :
    w'.Covered := by
  rcases flush_eq h with ⟨-, rfl⟩ | ⟨d, s, hne, rfl, hsub, -⟩
  · exact hc
  -- an empty window turns to showing lines, and nothing else changes state
  have hfailed : Failed { w with
      buffer := []
      display := d
      scroll := s
      state := if w.state = .empty then .lines else w.state } ↔ w.Failed := by
    unfold Failed
    split
    · rename_i hempty
      simp [hempty]
    · rfl
  have hloaded : ¬ w.Failed → w.loaded ≠ none := fun hok hnone => hne (hc.unloaded hok hnone).2
  refine { lines_loaded := fun hs => ?_
           display_spanned := fun hok r' hr' => ?_
           buffer_spanned := fun _ _ _ => LineRange.spans_nil _
           unloaded := fun hok hnone => absurd hnone (hloaded ((not_congr hfailed).mp hok))
           staged := fun p hp => ?_
           prefetch_shown := fun t ht hk => ?_ }
  · dsimp only at hs
    split at hs
    · rename_i hempty
      exact hloaded (fun ⟨_, hm⟩ => by rw [hempty] at hm; cases hm)
    · exact hc.lines_loaded hs
  · have hok' := (not_congr hfailed).mp hok
    have hbatch : r'.Spans (sortedBatch w.buffer) := fun l hl =>
      hc.buffer_spanned hok' r' hr' l (mem_sortedBatch.mp hl)
    exact ((hc.display_spanned hok' r' hr').insertAll hbatch).sublist hsub
  · obtain ⟨hstate, rest⟩ := hc.staged p hp
    exact ⟨by simp [hstate], rest⟩
  · obtain ⟨hstate, rest⟩ := hc.prefetch_shown t ht hk
    exact ⟨by simp [hstate], rest⟩

/-- A streamed line widens the loaded range to reach it, up to the log's known
end, past every line the window holds. -/
theorem Covered.appendStreamed (hc : w.Covered) (hb : w.Bounded) {task : Nat} {l : LogLine}
    {b : Bool} (h : w.appendStreamed task l = .ok (w', b)) : w'.Covered := by
  rcases appendStreamed_eq h with ⟨-, rfl⟩ | ⟨-, -, first, w₁, hfirst, hw₁, hw'⟩
  · exact hc
  -- the new range starts no later than the old one and ends at the known end
  have hwide : ∀ r, w.loaded = some r → first ≤ r.first ∧ r.last ≤ max w.totalLines l.number := by
    intro r hr
    have := (hb.loaded_within r hr).2.2
    rcases hfirst with ⟨hnone, -⟩ | ⟨r', hr', rfl⟩
    · rw [hnone] at hr
      cases hr
    · rw [hr] at hr'
      cases hr'
      omega
  have hline : first ≤ l.number := by
    rcases hfirst with ⟨-, rfl⟩ | ⟨r', -, rfl⟩
    · exact Nat.le_refl _
    · exact Nat.min_le_right _ _
  have hspan : ∀ ls : List LogLine, ¬ w.Failed → (∀ r, w.loaded = some r → r.Spans ls) →
      (w.loaded = none → ls = []) → LineRange.Spans ⟨first, max w.totalLines l.number⟩ ls := by
    intro ls hok hls hnil
    cases hr : w.loaded with
    | none =>
      rw [hnil hr]
      exact LineRange.spans_nil _
    | some r => exact (hls r hr).widen (hwide r hr).1 (hwide r hr).2
  have hc₁ : w₁.Covered := by
    subst hw₁
    refine { lines_loaded := fun _ => by simp
             display_spanned := fun hok r hr => ?_
             buffer_spanned := fun hok r hr => ?_
             unloaded := fun _ hnone => by cases hnone
             staged := fun p hp => ?_
             prefetch_shown := fun t ht hk => ⟨(hc.prefetch_shown t ht hk).1, by simp⟩ }
    · cases hr
      exact hspan _ hok (hc.display_spanned hok) fun hnone => (hc.unloaded hok hnone).1
    · cases hr
      intro x hx
      rcases List.mem_append.mp hx with hx | hx
      · exact hspan _ hok (hc.buffer_spanned hok) (fun hnone => (hc.unloaded hok hnone).2) x hx
      · obtain rfl := List.mem_singleton.mp hx
        exact ⟨hline, Nat.le_max_right _ _⟩
    · obtain ⟨hstate, hflight, r, hr, hp'⟩ := hc.staged p hp
      exact ⟨hstate, hflight, _, rfl, hp'.widen (Nat.le_refl _) (hwide r hr).2⟩
  rcases hw' with ⟨-, rfl⟩ | ⟨-, r, hflush⟩
  · exact hc₁
  · exact hc₁.flush hflush

theorem Covered.onScroll (hc : w.Covered) {t? : Option LoadTicket}
    (h : w.onScroll = .ok (w', t?)) : w'.Covered := by
  obtain ⟨w₁, hp, ⟨-, -, b, hcommit⟩ | ⟨-, rfl⟩⟩ := onScroll_eq h
  · exact (hc.prefetchAbove hp).commitPrefetch hcommit
  · exact hc.prefetchAbove hp

/-- A prefetch result, taken while lines of a loaded range are shown, stages
lines above the range, ascending from the staged range's first line. -/
theorem Covered.applyPrefetch (hc : w.Covered) (hb : w.Bounded)
    (hshown : w.state = .lines ∧ w.loaded ≠ none) (hflight : w.inFlight = none)
    {result : Except LoadError LogChunk} (hasc : ∀ chunk, result = .ok chunk → Ascending chunk.lines)
    {o : LoadOutcome} (h : w.applyPrefetch result = .ok (w', o)) : w'.Covered := by
  rcases applyPrefetch_eq h with ⟨e, -, -, rfl⟩ | ⟨chunk, rfl, -, ⟨-, rfl⟩ | ⟨lo, hi, w₁, hlo, -, hw₁, hw'⟩⟩
  · exact hc
  · exact { hc with }
  obtain ⟨r, hr⟩ := Option.ne_none_iff_exists'.mp hshown.2
  have hstaged : LineRange.Spans ⟨lo.number, r.last⟩
      (chunk.lines.filter (·.number < w.loadedStart)) := by
    intro l hl
    have hlt : l.number < r.first := by
      simpa [loadedStart, hr] using (List.mem_filter.mp hl).2
    have hfiltered : Ascending (chunk.lines.filter (·.number < w.loadedStart)) :=
      (hasc chunk rfl).sublist List.filter_sublist
    have := (hb.loaded_within r hr).2.1
    exact ⟨hfiltered.head_le hlo hl, show l.number ≤ r.last by omega⟩
  have hc₁ : w₁.Covered := by
    subst hw₁
    exact { hc with
      staged := fun p hp => by
        cases hp
        exact ⟨hshown.1, hflight, r, hr, hstaged⟩ }
  rcases hw' with ⟨-, b, hcommit⟩ | ⟨-, rfl⟩
  · exact hc₁.commitPrefetch hcommit
  · exact hc₁

/-- Facts about what a primary result carries over from the window: streamed
lines past its lines, and buffered lines either past them or among them. -/
theorem carried_numbers {w : Window} {kind : LoadKind} {lines : List LogLine}
    {streamed : LineMap} {buffer : List LogLine} {newer : List Nat}
    (hquiet : kind = .tail ∨ w.buffer = [])
    (h : kind = .tail ∧ w.streamedPast (lines.head?.map (·.number))
        (lines.getLast?.map (·.number)) = .ok (streamed, buffer, newer) ∨
      kind ≠ .tail ∧ streamed = LineMap.empty ∧ buffer = w.buffer ∧ newer = []) :
    (∀ l ∈ streamed.lines, l.number ∈ newer) ∧
      (∀ l ∈ buffer, l.number ∈ newer ∨ ∃ x z, lines.head? = some x ∧ lines.getLast? = some z ∧
        x.number ≤ l.number ∧ l.number ≤ z.number) ∧
      ∀ n ∈ newer, ∀ z ∈ lines.getLast?, z.number < n := by
  rcases h with ⟨-, hs⟩ | ⟨hkind, rfl, rfl, rfl⟩
  · obtain ⟨-, hstreamed, -, hbuffer, hnewer⟩ := streamedPast_eq hs
    refine ⟨fun l hl => ?_, fun l hl => ?_, fun n hn z hz => ?_⟩
    · obtain ⟨-, hpast⟩ := (hstreamed l).mp hl
      exact (hnewer l.number).mpr ⟨.inl (List.mem_map_of_mem hl), hpast⟩
    · obtain ⟨-, hfrom⟩ := (hbuffer l).mp hl
      -- a buffered line past the lines is carried, else it lies among them
      by_cases hpast : ∀ last ∈ lines.getLast?.map (·.number), last < l.number
      · exact .inl ((hnewer l.number).mpr ⟨.inr (List.mem_map_of_mem hl), hpast⟩)
      · refine .inr ?_
        obtain ⟨z, hz, hle⟩ : ∃ z, lines.getLast? = some z ∧ l.number ≤ z.number := by
          simpa using hpast
        obtain ⟨x, hx⟩ : ∃ x, lines.head? = some x := by
          cases lines with
          | nil => cases hz
          | cons x xs => exact ⟨x, rfl⟩
        exact ⟨x, z, hx, hz, hfrom _ (by simp [hx]), hle⟩
    · exact ((hnewer n).mp hn).2 z.number (Option.mem_map_of_mem _ hz)
  · rcases hquiet with h | hnil
    · exact absurd h hkind
    · exact ⟨fun _ h => (by cases h), fun _ h => (by rw [hnil] at h; cases h),
        fun _ h => (by cases h)⟩

/-- The range a primary result loads spans its ascending lines and every number
carried past them. -/
theorem primaryRange_spans {lines : List LogLine} {newer : List Nat} {lo hi : Nat}
    (hasc : Ascending lines) (hnewer : ∀ n ∈ newer, ∀ z ∈ lines.getLast?, z.number < n)
    (hlo : (lines.head?.map (·.number) <|> newer.min?) = some lo)
    (hhi : max (lines.getLast?.map (·.number)) newer.max? = some hi) :
    (∀ x z, lines.head? = some x → lines.getLast? = some z → lo = x.number ∧ z.number ≤ hi) ∧
      ∀ n ∈ newer, lo ≤ n ∧ n ≤ hi := by
  have hnewer_le : ∀ n ∈ newer, n ≤ hi := by
    intro n hn
    obtain ⟨m, hm⟩ := Option.ne_none_iff_exists'.mp
      (mt List.max?_eq_none_iff.mp (List.ne_nil_of_mem hn))
    have hnm := (List.max?_eq_some_iff.mp hm).2 n hn
    rw [hm] at hhi
    cases hz : lines.getLast? <;> simp [hz] at hhi <;> omega
  have hlast_le : ∀ z, lines.getLast? = some z → z.number ≤ hi := by
    intro z hz
    rw [hz] at hhi
    cases hm : newer.max? <;> simp [hm] at hhi <;> omega
  cases lines with
  | nil =>
    simp only [List.head?_nil, Option.map_none, Option.orElse_eq_orElse, Option.orElse_eq_or,
      Option.none_or] at hlo
    exact ⟨fun _ _ h => (by cases h), fun n hn =>
      ⟨(List.min?_eq_some_iff.mp hlo).2 n hn, hnewer_le n hn⟩⟩
  | cons x xs =>
    simp only [List.head?_cons, Option.map_some, Option.orElse_eq_orElse, Option.orElse_eq_or,
      Option.some_or, Option.some.injEq] at hlo
    subst hlo
    refine ⟨fun x' z hx hz => ?_, fun n hn => ?_⟩
    · cases hx
      exact ⟨rfl, hlast_le z hz⟩
    · -- the first line is no later than the last, which every carried number passes
      obtain ⟨z, hz⟩ : ∃ z, (x :: xs).getLast? = some z :=
        ⟨_, List.getLast?_eq_some_getLast (List.cons_ne_nil x xs)⟩
      have hxz := hasc.head_le rfl (List.mem_of_getLast? hz)
      have := hnewer n hn z hz
      exact ⟨by omega, hnewer_le n hn⟩

/-- A primary result, taken with nothing staged and, for a range, nothing
buffered, loads a range that spans the display and the buffer it leaves. -/
theorem covered_applyPrimary (hpending : w.pending = none)
    (hflight : w.inFlight = none) {ticket : LoadTicket} {result : Except LoadError LogChunk}
    (hasc : ∀ chunk, result = .ok chunk → Ascending chunk.lines)
    (hquiet : ticket.kind = .tail ∨ w.buffer = []) {o : LoadOutcome}
    (h : w.applyPrimary ticket result = .ok (w', o)) : w'.Covered := by
  rcases applyPrimary_cases h with ⟨e, -, rfl⟩ | ⟨chunk, rfl, hne⟩
  · exact { lines_loaded := fun h => by cases h
            display_spanned := fun hok => absurd ⟨_, rfl⟩ hok
            buffer_spanned := fun hok => absurd ⟨_, rfl⟩ hok
            unloaded := fun hok => absurd ⟨_, rfl⟩ hok
            staged := fun p hp => by cases hpending.symm.trans hp
            prefetch_shown := fun t ht => by cases hflight.symm.trans ht }
  obtain ⟨lines, hlines⟩ : ∃ lines, lines = w.primaryLines ticket.kind chunk.lines := ⟨_, rfl⟩
  have hasc' : Ascending lines :=
    (hasc chunk rfl).sublist (hlines ▸ primaryLines_sublist _ _)
  obtain ⟨-, streamed, buffer, newer, hsrc, hcase⟩ := applyPrimary_applied hlines hne h
  obtain ⟨hstreamed, hbuffer, hpast⟩ := carried_numbers hquiet hsrc
  rcases hcase with ⟨hnone, rfl⟩ | ⟨lo, hi, d, s, hlo, hhi, rfl, hsub, -⟩
  · -- nothing loaded: no line taken and nothing carried, so nothing is held
    have hlines_nil : lines = [] := by
      cases lines with
      | nil => rfl
      | cons x xs => simp at hnone
    subst hlines_nil
    have hnewer : newer = [] := by
      simpa using hnone
    have hstreamed_nil : streamed.lines = [] :=
      List.eq_nil_iff_forall_not_mem.mpr fun l hl => by simpa [hnewer] using hstreamed l hl
    have hbuffer_nil : buffer = [] :=
      List.eq_nil_iff_forall_not_mem.mpr fun l hl => by simpa [hnewer] using hbuffer l hl
    exact { lines_loaded := fun h => by cases h
            display_spanned := fun _ _ h => by cases h
            buffer_spanned := fun _ _ h => by cases h
            unloaded := fun _ _ => ⟨by simp [hstreamed_nil, LineMap.ofList], hbuffer_nil⟩
            staged := fun p hp => by cases hpending.symm.trans hp
            prefetch_shown := fun t ht => by cases hflight.symm.trans ht }
  · obtain ⟨hends, hcarried⟩ := primaryRange_spans hasc' hpast hlo hhi
    have hlines_span : LineRange.Spans ⟨lo, hi⟩ lines := by
      intro l hl
      obtain ⟨x, hx⟩ : ∃ x, lines.head? = some x := by
        cases lines with
        | nil => cases hl
        | cons x xs => exact ⟨x, rfl⟩
      obtain ⟨z, hz⟩ : ∃ z, lines.getLast? = some z :=
        ⟨_, List.getLast?_eq_some_getLast (List.ne_nil_of_mem hl)⟩
      obtain ⟨rfl, hzhi⟩ := hends x z hx hz
      exact ⟨hasc'.head_le hx hl, Nat.le_trans (hasc'.le_getLast hz hl) hzhi⟩
    have hbuffer_span : LineRange.Spans ⟨lo, hi⟩ buffer := by
      intro l hl
      rcases hbuffer l hl with hn | ⟨x, z, hx, hz, hxl, hlz⟩
      · exact hcarried _ hn
      · obtain ⟨rfl, hzhi⟩ := hends x z hx hz
        exact ⟨hxl, Nat.le_trans hlz hzhi⟩
    have hdisplay_span : LineRange.Spans ⟨lo, hi⟩
        ((LineMap.ofList lines).insertAll streamed.lines).lines :=
      LineRange.Spans.insertAll
        (fun l hl => hlines_span l (LineMap.mem_ofList hl))
        (fun l hl => hcarried _ (hstreamed l hl))
    refine { lines_loaded := fun _ => by simp
             display_spanned := fun _ r hr => ?_
             buffer_spanned := fun _ r hr => ?_
             unloaded := fun _ h => by cases h
             staged := fun p hp => by cases hpending.symm.trans hp
             prefetch_shown := fun t ht => by cases hflight.symm.trans ht }
    · cases hr
      exact hdisplay_span.sublist hsub
    · cases hr
      exact hbuffer_span

/-- A current ticket is the load in flight; its result keeps the window covered
when the result's lines ascend and, for a range, nothing is buffered. -/
theorem Covered.complete (hc : w.Covered) (hb : w.Bounded) {ticket : LoadTicket}
    {result : Except LoadError LogChunk} {o : LoadOutcome}
    (hcurrent : ticket.generation = w.generation → w.task = some ticket.task →
      w.inFlight = some ticket)
    (hasc : ∀ chunk, result = .ok chunk → Ascending chunk.lines)
    (hquiet : ticket.kind = .range → ticket.generation = w.generation → w.buffer = [])
    (h : w.complete ticket result = .ok (w', o)) : w'.Covered := by
  rcases complete_eq h with ⟨-, rfl, -⟩ | ⟨hgen, htask, hcur⟩
  · exact hc
  have hflight := hcurrent hgen htask
  rw [if_pos hflight] at hcur
  -- with a load in flight nothing is staged
  have hpending : w.pending = none := by
    cases hp : w.pending with
    | none => rfl
    | some p =>
      have := (hc.staged p hp).2.1
      rw [hflight] at this
      cases this
  have hc₀ : Covered { w with inFlight := none } :=
    { hc with
      staged := fun p hp => by cases hpending.symm.trans hp
      prefetch_shown := fun t ht => by cases ht }
  have hb₀ : Bounded { w with inFlight := none } :=
    { hb with closed := fun h => absurd (htask.symm.trans h) (by simp) }
  rcases hcur with ⟨hkind, hp⟩ | ⟨hkind, hp⟩
  · exact hc₀.applyPrefetch hb₀ (hc.prefetch_shown ticket hflight hkind) rfl hasc hp
  · refine covered_applyPrimary (w := { w with inFlight := none }) hpending rfl hasc ?_ hp
    cases hk : ticket.kind with
    | tail => exact .inl rfl
    | range => exact .inr (hquiet hk hgen)
    | prefetch => exact absurd hk hkind

/-- A range result is handed back only while no streamed line waits for a
flush. -/
def FlushedBeforeRange (w : Window) : WindowOp → Prop
  | .complete t _ => t.kind = .range → t.generation = w.generation → w.buffer = []
  | _ => True

end Window

namespace Session

variable {s s' : Session} {op : WindowOp}

/-- A consistent session with one live load and a covered window. -/
structure Covers (s : Session) : Prop where
  consistent : s.Consistent
  live : OneLive s
  covered : s.window.Covered

theorem Covers.step (hc : s.Covers) (hquiet : s.window.FlushedBeforeRange op)
    (h : Step Caller.wire s op s') : s'.Covers := by
  refine ⟨hc.consistent.step h, hc.live.step rfl h, ?_⟩
  have hlive := hc.live
  have hcons := hc.consistent
  cases h with
  | @mk w held _ w' issued hallow hperf =>
  have hcov : w.Covered := hc.covered
  have hop := Window.perform_eq_ok hperf
  cases op with
  | openTask task =>
    rw [hop.1]
    exact Window.covered_openTask w task
  | reload =>
    cases htask : w.task with
    | none =>
      rw [Window.reload_of_none htask] at hop
      cases hop
      exact hcov
    | some task =>
      rw [Window.reload_of_task htask] at hop
      cases hop
      exact Window.covered_openTask w task
  | close =>
    rw [hop.1]
    exact Window.covered_reset w
  | loadRange first last =>
    rcases hop with hr | ⟨-, rfl, -⟩
    · exact hcov.loadRange hr
    · exact hcov
  | complete t r =>
    obtain ⟨-, o, hcomp⟩ := hop
    exact hcov.complete hcons.window.toBounded (fun hgen _ => hlive.current t hallow.1 hgen)
      (fun chunk hr => (hcons.answer_lines hallow chunk hr).1) hquiet hcomp
  | append task l =>
    obtain ⟨-, b, ha⟩ := hop
    exact hcov.appendStreamed hcons.window.toBounded ha
  | flush =>
    obtain ⟨-, r, hf⟩ := hop
    exact hcov.flush hf
  | prefetch position height => exact hcov.prefetchAbove hop
  | commit =>
    obtain ⟨-, b, hcommit⟩ := hop
    exact hcov.commitPrefetch hcommit
  | onScroll => exact hcov.onScroll hop
  | setRows _ | scroll _ | toTop | toBottom =>
    obtain ⟨-, sc, v, rfl⟩ := hop
    exact { hcov with }

theorem covers_start {c : WindowConfig} (hmax : 0 < c.maxDisplayLines)
    (hflush : 0 < c.flushThreshold) : (start c).Covers where
  consistent := consistent_start hmax hflush
  live := ⟨fun _ ht => (by cases ht), fun _ ht => (by cases ht), fun _ ht => (by cases ht)⟩
  covered :=
    { lines_loaded := fun h => by cases h
      display_spanned := fun _ _ h => by cases h
      buffer_spanned := fun _ _ h => by cases h
      unloaded := fun _ _ => ⟨rfl, rfl⟩
      staged := fun _ h => by cases h
      prefetch_shown := fun _ h => by cases h }

/-- Along a run that hands range results back only while no streamed line waits, a
window showing lines has a loaded range, named by the header, covering the display. -/
theorem header_covers_display {c : WindowConfig} (hmax : 0 < c.maxDisplayLines)
    (hflush : 0 < c.flushThreshold) {ops : List WindowOp}
    (h : GuardedRun Caller.wire Window.FlushedBeforeRange (start c) ops s)
    (hlines : s.window.state = .lines) :
    ∃ r, s.window.loaded = some r ∧
      s.window.header = "Showing lines " ++ toString r.first ++ "-" ++ toString r.last ++
        " of " ++ toString s.window.totalLines ∧
      ∀ l ∈ s.window.display.lines, r.first ≤ l.number ∧ l.number ≤ r.last := by
  have hc := h.induction _ (fun _ _ _ hc hq hs => hc.step hq hs) (covers_start hmax hflush)
  obtain ⟨r, hr⟩ := Option.ne_none_iff_exists'.mp (hc.covered.lines_loaded hlines)
  refine ⟨r, hr, by simp [Window.header, hlines, hr],
    hc.covered.display_spanned (Window.not_failed_of_lines hlines) r hr⟩

/-- A line streamed past a two-line tail and flushed before a jump back to the
same two lines: the header covers what is shown. -/
theorem header_covers_display_after_range :
    ∃ s, GuardedRun Caller.wire Window.FlushedBeforeRange (start {})
        [.openTask 7, .complete ⟨1, 7, .tail, 0, 0⟩
          (.ok ⟨[LogLine.numbered 1, LogLine.numbered 2], 2⟩),
          .append 7 (LogLine.numbered 3), .flush, .loadRange 1 2,
          .complete ⟨2, 7, .range, 1, 2⟩ (.ok ⟨[LogLine.numbered 1, LogLine.numbered 2], 3⟩)] s ∧
      0 < ({} : WindowConfig).maxDisplayLines ∧ 0 < ({} : WindowConfig).flushThreshold ∧
      s.window.state = .lines ∧
      ∃ r, s.window.loaded = some r ∧
        s.window.header = "Showing lines " ++ toString r.first ++ "-" ++ toString r.last ++
          " of " ++ toString s.window.totalLines ∧
        ∀ l ∈ s.window.display.lines, r.first ≤ l.number ∧ l.number ≤ r.last := by
  have hrun := ((((((GuardedRun.nil : GuardedRun Caller.wire Window.FlushedBeforeRange
    (start {}) [] _).perform (.openTask 7) trivial trivial rfl).perform
      (.complete ⟨1, 7, .tail, 0, 0⟩ (.ok ⟨[LogLine.numbered 1, LogLine.numbered 2], 2⟩))
      (fun h => by cases h) ⟨by decide, wire_answers_read ⟨2⟩ rfl⟩ rfl).perform
    (.append 7 (LogLine.numbered 3)) trivial trivial rfl).perform .flush trivial trivial rfl).perform
    (.loadRange 1 2) trivial trivial rfl).perform
      (.complete ⟨2, 7, .range, 1, 2⟩ (.ok ⟨[LogLine.numbered 1, LogLine.numbered 2], 3⟩))
      (fun _ _ => rfl) ⟨by decide, wire_answers_read ⟨3⟩ rfl⟩ rfl
  exact ⟨_, hrun, by decide, by decide, rfl, header_covers_display (by decide) (by decide) hrun rfl⟩

/-- A line streamed past a two-line tail waits in the buffer while a jump back to
those two lines arrives; the flush then shows it below the range the header
names. -/
theorem header_omits_buffered_line :
    ∃ s, Run Caller.wire (start {})
        [.openTask 7, .complete ⟨1, 7, .tail, 0, 0⟩
          (.ok ⟨[LogLine.numbered 1, LogLine.numbered 2], 2⟩),
          .append 7 (LogLine.numbered 3), .loadRange 1 2,
          .complete ⟨2, 7, .range, 1, 2⟩ (.ok ⟨[LogLine.numbered 1, LogLine.numbered 2], 3⟩),
          .flush] s ∧
      s.window.state = .lines ∧ s.window.loaded = some ⟨1, 2⟩ ∧
      s.window.header = "Showing lines 1-2 of 3" ∧ s.window.display.numbers = [1, 2, 3] := by
  have hrun := ((((((Run.nil : Run Caller.wire (start {}) [] _).perform (.openTask 7) trivial
    rfl).perform
      (.complete ⟨1, 7, .tail, 0, 0⟩ (.ok ⟨[LogLine.numbered 1, LogLine.numbered 2], 2⟩))
      ⟨by decide, wire_answers_read ⟨2⟩ rfl⟩ rfl).perform
    (.append 7 (LogLine.numbered 3)) trivial rfl).perform (.loadRange 1 2) trivial rfl).perform
      (.complete ⟨2, 7, .range, 1, 2⟩ (.ok ⟨[LogLine.numbered 1, LogLine.numbered 2], 3⟩))
      ⟨by decide, wire_answers_read ⟨3⟩ rfl⟩ rfl).perform .flush trivial rfl
  exact ⟨_, hrun, rfl, rfl, by decide, by decide⟩

end Session

end TaskConsole
