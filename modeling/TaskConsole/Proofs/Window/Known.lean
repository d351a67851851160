import TaskConsole.Proofs.Window.Header

/-! A window that knows its log has lines has a range loaded (`known_lines_loaded`),
unless an empty tail reported a positive total (`known_lines_unloaded`). -/

namespace TaskConsole

/-- Pruning a map to a positive size empties it only when it was empty. -/
theorem LineMap.pruned_eq_nil_iff {d m : LineMap} {k : Nat} (hk : 0 < k)
    (hsize : d.size = min m.size k) : d.lines = [] ↔ m.lines = [] := by
  rw [← List.length_eq_zero_iff, ← List.length_eq_zero_iff]
  change d.size = 0 ↔ m.size = 0
  omega

/-- A map built from two batches is empty only when both batches are. -/
theorem LineMap.nil_of_insertAll_ofList {lines ls : List LogLine}
    (h : ((LineMap.ofList lines).insertAll ls).lines = []) : lines = [] ∧ ls = [] := by
  have hsize : ((LineMap.ofList lines).insertAll ls).size = 0 := by
    simp [LineMap.size, h]
  refine ⟨Classical.byContradiction fun hne => ?_, Classical.byContradiction fun hne => ?_⟩
  · have := Nat.lt_of_lt_of_le (size_insertAll_pos (m := LineMap.empty) hne)
      (size_le_insertAll (ofList lines) ls)
    omega
  · have := size_insertAll_pos (m := ofList lines) hne
    omega

namespace Window

variable {w w' : Window}

/-- A current tail result that brings no lines reports an empty log. -/
def EmptyTailsReportNone (w : Window) : WindowOp → Prop
  | .complete t (.ok chunk) =>
    t.kind = .tail → t.generation = w.generation → chunk.lines = [] → chunk.totalLines = 0
  | _ => True

/-- What a window knows of its log against what it has loaded: unless it failed, a
window that knows of lines has a range, and an empty window displays nothing. -/
structure Known (w : Window) : Prop where
  loaded_of_total : ¬ w.Failed → 0 < w.totalLines → w.loaded ≠ none
  unloaded_of_bare : ¬ w.Failed → w.display.lines = [] → w.buffer = [] → w.loaded = none
  empty_bare : w.state = .empty → w.display.lines = []
  tail_loading : ∀ t, w.inFlight = some t → t.kind = .tail → w.state = .loading
  prefetch_shown : ∀ t, w.inFlight = some t → t.kind = .prefetch →
    w.state = .lines ∧ w.loaded ≠ none
  staged : ∀ p, w.pending = some p → w.state = .lines ∧ w.inFlight = none

theorem not_failed_of_empty (h : w.state = .empty) : ¬ w.Failed := fun ⟨_, hm⟩ => by
  rw [h] at hm
  cases hm

/-- An idle window that knows of no lines and loads nothing. -/
theorem known_of_idle (hstate : w.state = .idle) (htotal : w.totalLines = 0)
    (hloaded : w.loaded = none) (hflight : w.inFlight = none) (hpending : w.pending = none) :
    w.Known where
  loaded_of_total := fun _ h => absurd (htotal ▸ h) (Nat.lt_irrefl 0)
  unloaded_of_bare := fun _ _ _ => hloaded
  empty_bare := fun h => by cases hstate.symm.trans h
  tail_loading := fun _ h => by cases hflight.symm.trans h
  prefetch_shown := fun _ h => by cases hflight.symm.trans h
  staged := fun _ h => by cases hpending.symm.trans h

theorem known_reset (w : Window) : w.reset.Known := known_of_idle rfl rfl rfl rfl rfl

theorem known_openTask (w : Window) (task : Nat) : (w.openTask task).1.Known where
  loaded_of_total := fun _ h => absurd h (Nat.lt_irrefl 0)
  unloaded_of_bare := fun _ _ _ => rfl
  empty_bare := fun h => by cases h
  tail_loading := fun _ _ _ => rfl
  prefetch_shown := fun _ h hk => by cases h; cases hk
  staged := fun _ h => by cases h

theorem Known.loadRange (hk : w.Known) {first last : Nat} {t? : Option LoadTicket}
    (h : w.loadRange first last = .ok (w', t?)) : w'.Known := by
  rcases loadRange_eq_ok h with hp | ⟨task, -, -, hp⟩
  · cases hp
    exact hk
  · cases hp
    exact { hk with
      tail_loading := fun _ h hkind => by cases h; cases hkind
      prefetch_shown := fun _ h hkind => by cases h; cases hkind
      staged := fun _ h => by cases h }

theorem Known.prefetchAbove (hk : w.Known) {position height : Nat} {t? : Option LoadTicket}
    (h : w.prefetchAbove position height = (w', t?)) : w'.Known := by
  rcases prefetchAbove_eq h with ⟨-, rfl⟩ |
    ⟨task, loaded, -, hloaded, hstate, -, -, hpending, -, rfl, rfl⟩
  · exact hk
  · exact { hk with
      tail_loading := fun _ h hkind => by cases h; cases hkind
      prefetch_shown := fun _ _ _ => ⟨hstate, by simp [hloaded]⟩
      staged := fun p hp => by cases hpending.symm.trans hp }

/-- Splicing the staged lines in keeps a range loaded, and a display that held
lines before holds them after. -/
theorem Known.commitPrefetch (hk : w.Known) (hmax : 0 < w.config.maxDisplayLines) {b : Bool}
    (h : w.commitPrefetch = .ok (w', b)) : w'.Known := by
  rcases commitPrefetch_eq h with ⟨-, rfl, -⟩ | ⟨staged, d, s, hpending, -, rfl, -, hsize⟩
  · exact hk
  have hstate := (hk.staged staged hpending).1
  have hloaded : (w.loaded.map fun r => { r with first := min r.first staged.range.first }) ≠ none ↔
      w.loaded ≠ none := by
    simp
  refine { loaded_of_total := fun hok hpos => hloaded.mpr (hk.loaded_of_total hok hpos)
           unloaded_of_bare := fun hok hd hbuf => ?_
           empty_bare := fun h => absurd (hstate.symm.trans h) (by simp)
           tail_loading := hk.tail_loading
           prefetch_shown := fun t ht hkind =>
             ⟨(hk.prefetch_shown t ht hkind).1, hloaded.mpr (hk.prefetch_shown t ht hkind).2⟩
           staged := fun _ hp => by cases hp }
  -- the display spliced into nothing was empty too
  have hbase := (LineMap.pruned_eq_nil_iff hmax hsize).mp hd
  have hdisplay : w.display.lines = [] := by
    have := LineMap.size_le_insertAll w.display staged.lines
    simp only [LineMap.size, hbase, List.length_nil, Nat.le_zero, List.length_eq_zero_iff] at this
    exact this
  simp [hk.unloaded_of_bare hok hdisplay hbuf]

/-- A flush turns an empty window to showing lines and keeps every other state. -/
theorem flushedState_eq {st : DisplayState} (h : w.state = st) (hst : st ≠ .empty) :
    (if w.state = .empty then DisplayState.lines else w.state) = st := by
  rw [h, if_neg hst]

theorem flushedState_ne_empty :
    (if w.state = .empty then DisplayState.lines else w.state) ≠ .empty := by
  split <;> simp_all

/-- A flush moves a non-empty buffer into the display, which then holds lines. -/
theorem Known.flush (hk : w.Known) (hmax : 0 < w.config.maxDisplayLines) {r : FlushReport}
    (h : w.flush = .ok (w', r)) : w'.Known := by
  rcases flush_eq h with ⟨-, rfl⟩ | ⟨d, s, hne, rfl, -, hsize⟩
  · exact hk
  have hd : d.lines ≠ [] := by
    rw [Ne, LineMap.pruned_eq_nil_iff hmax hsize, ← List.length_eq_zero_iff]
    exact Nat.pos_iff_ne_zero.mp (LineMap.size_insertAll_pos (sortedBatch_ne_nil hne))
  exact { loaded_of_total := fun hok hpos =>
            hk.loaded_of_total (fun ⟨m, hm⟩ => hok ⟨m, flushedState_eq hm (by simp)⟩) hpos
          unloaded_of_bare := fun _ hd' => absurd hd' hd
          empty_bare := fun h => absurd h flushedState_ne_empty
          tail_loading := fun t ht hkind => flushedState_eq (hk.tail_loading t ht hkind) (by simp)
          prefetch_shown := fun t ht hkind =>
            ⟨flushedState_eq (hk.prefetch_shown t ht hkind).1 (by simp),
              (hk.prefetch_shown t ht hkind).2⟩
          staged := fun p hp => ⟨flushedState_eq (hk.staged p hp).1 (by simp), (hk.staged p hp).2⟩ }

/-- A streamed line widens the loaded range to reach it and waits in the buffer. -/
theorem Known.appendStreamed (hk : w.Known) (hmax : 0 < w.config.maxDisplayLines) {task : Nat}
    {l : LogLine} {b : Bool} (h : w.appendStreamed task l = .ok (w', b)) : w'.Known := by
  rcases appendStreamed_eq h with ⟨-, rfl⟩ | ⟨-, -, first, w₁, -, hw₁, hw'⟩
  · exact hk
  subst hw₁
  have hk₁ : Known { w with
      totalLines := max w.totalLines l.number
      loaded := some ⟨first, max w.totalLines l.number⟩
      buffer := w.buffer ++ [l] } :=
    { hk with
      loaded_of_total := fun _ _ => by simp
      unloaded_of_bare := fun _ _ hbuf => absurd hbuf (by simp)
      prefetch_shown := fun t ht hkind => ⟨(hk.prefetch_shown t ht hkind).1, by simp⟩ }
  rcases hw' with ⟨-, rfl⟩ | ⟨-, r, hflush⟩
  · exact hk₁
  · exact hk₁.flush hmax hflush

theorem Known.onScroll (hk : w.Known) (hmax : 0 < w.config.maxDisplayLines)
    {t? : Option LoadTicket} (h : w.onScroll = .ok (w', t?)) : w'.Known := by
  obtain ⟨w₁, hp, ⟨-, -, b, hcommit⟩ | ⟨-, rfl⟩⟩ := onScroll_eq h
  · have hconfig : w₁.config = w.config := prefetchAbove_config hp
    exact (hk.prefetchAbove hp).commitPrefetch (hconfig ▸ hmax) hcommit
  · exact hk.prefetchAbove hp

/-- A prefetch result, taken while lines of a loaded range are shown, keeps the
range and stages its lines with nothing in flight. -/
theorem Known.applyPrefetch (hk : w.Known) (hmax : 0 < w.config.maxDisplayLines)
    (hshown : w.state = .lines ∧ w.loaded ≠ none) (hflight : w.inFlight = none)
    {result : Except LoadError LogChunk} {o : LoadOutcome}
    (h : w.applyPrefetch result = .ok (w', o)) : w'.Known := by
  rcases applyPrefetch_eq h with ⟨e, -, -, rfl⟩ |
    ⟨chunk, rfl, -, ⟨-, rfl⟩ | ⟨lo, hi, w₁, -, -, hw₁, hw'⟩⟩
  · exact hk
  · exact { hk with loaded_of_total := fun _ _ => hshown.2 }
  subst hw₁
  have hk₁ : Known { w with
      totalLines := max w.totalLines chunk.totalLines
      moreAbove := decide (lo.number > 1)
      batchSize := min (w.batchSize * 2) w.config.maxBatch
      pending := some ⟨chunk.lines.filter (·.number < w.loadedStart), ⟨lo.number, hi.number⟩⟩ } :=
    { hk with
      loaded_of_total := fun _ _ => hshown.2
      staged := fun p hp => by
        cases hp
        exact ⟨hshown.1, hflight⟩ }
  rcases hw' with ⟨-, b, hcommit⟩ | ⟨-, rfl⟩
  · exact hk₁.commitPrefetch hmax hcommit
  · exact hk₁

/-- A tail result keeps no line only when it brought none. -/
theorem primaryLines_eq_nil (hbatch : 0 < w.config.initialBatch) {kind : LoadKind}
    {lines : List LogLine} (h : w.primaryLines kind lines = []) : lines = [] := by
  unfold primaryLines at h
  split at h
  · rename_i hlong
    have hlen := congrArg List.length h
    simp only [List.length_drop, List.length_nil] at hlen
    omega
  · exact h

/-- A tail result without lines carries over the whole display and buffer, each
line of them counted among the numbers carried. -/
theorem carried_of_no_lines {streamed : LineMap} {buffer : List LogLine} {newer : List Nat}
    (h : w.streamedPast none none = .ok (streamed, buffer, newer)) (hnewer : newer = []) :
    streamed.lines = [] ∧ w.display.lines = [] ∧ w.buffer = [] := by
  obtain ⟨hsub, hstreamed, -, hbuffer, hcarried⟩ := streamedPast_eq h
  have hnone : ∀ n, n ∉ newer := by simp [hnewer]
  have hdisplay : w.display.lines = [] := List.eq_nil_iff_forall_not_mem.mpr fun l hl =>
    hnone l.number ((hcarried l.number).mpr
      ⟨.inl (List.mem_map_of_mem ((hstreamed l).mpr ⟨hl, fun _ h => by cases h⟩)),
        fun _ h => by cases h⟩)
  have hbuf : w.buffer = [] := List.eq_nil_iff_forall_not_mem.mpr fun l hl =>
    hnone l.number ((hcarried l.number).mpr
      ⟨.inr (List.mem_map_of_mem ((hbuffer l).mpr ⟨hl, fun _ h => by cases h⟩)),
        fun _ h => by cases h⟩)
  exact ⟨List.sublist_nil.mp (hdisplay ▸ hsub), hdisplay, hbuf⟩

/-- A primary result, taken with nothing staged or in flight, loads a range
unless it leaves the window without lines; an empty tail result leaves a window
that knew of no lines when it reports none. -/
theorem Known.applyPrimary (hk : w.Known) (hmax : 0 < w.config.maxDisplayLines)
    (hbatch : 0 < w.config.initialBatch) (hpending : w.pending = none)
    (hflight : w.inFlight = none) {ticket : LoadTicket} (hkind : ticket.kind ≠ .prefetch)
    (htail : ticket.kind = .tail → w.state = .loading) {result : Except LoadError LogChunk}
    (hempty : ∀ chunk, result = .ok chunk → ticket.kind = .tail → chunk.lines = [] →
      chunk.totalLines = 0)
    {o : LoadOutcome} (h : w.applyPrimary ticket result = .ok (w', o)) : w'.Known := by
  rcases applyPrimary_cases h with ⟨e, -, rfl⟩ | ⟨chunk, rfl, hne⟩
  · exact { loaded_of_total := fun hok => absurd ⟨_, rfl⟩ hok
            unloaded_of_bare := fun hok => absurd ⟨_, rfl⟩ hok
            empty_bare := fun h => by cases h
            tail_loading := fun t ht => by cases hflight.symm.trans ht
            prefetch_shown := fun t ht => by cases hflight.symm.trans ht
            staged := fun p hp => by cases hpending.symm.trans hp }
  obtain ⟨lines, hlines⟩ : ∃ lines, lines = w.primaryLines ticket.kind chunk.lines := ⟨_, rfl⟩
  obtain ⟨-, streamed, buffer, newer, hsrc, hcase⟩ := applyPrimary_applied hlines hne h
  rcases hcase with ⟨hnone, rfl⟩ | ⟨lo, hi, d, s, hlo, hhi, rfl, -, hsize⟩
  · -- nothing loaded: a tail without lines over a window that held nothing
    have hlines_nil : lines = [] := by
      cases lines with
      | nil => rfl
      | cons x xs => simp at hnone
    subst hlines_nil
    have hnewer : newer = [] := by
      simpa using hnone
    have hchunk : chunk.lines = [] := primaryLines_eq_nil hbatch hlines.symm
    have hkind_tail : ticket.kind = .tail := by
      cases hk' : ticket.kind with
      | tail => rfl
      | range => exact absurd ⟨by simp [hchunk], hk'⟩ hne
      | prefetch => exact absurd hk' hkind
    obtain ⟨-, hpast⟩ | ⟨hnt, -⟩ := hsrc
    · obtain ⟨hstreamed, hdisplay, hbuf⟩ := carried_of_no_lines hpast hnewer
      have hok : ¬ w.Failed := fun ⟨m, hm⟩ => by
        rw [htail hkind_tail] at hm
        cases hm
      have htotal : w.totalLines = 0 :=
        Nat.eq_zero_of_not_pos fun hpos =>
          hk.loaded_of_total hok hpos (hk.unloaded_of_bare hok hdisplay hbuf)
      have hreported := hempty chunk rfl hkind_tail hchunk
      exact { loaded_of_total := fun _ hpos => absurd hpos (by simp [htotal, hreported])
              unloaded_of_bare := fun _ _ _ => rfl
              empty_bare := fun _ => by simp [hstreamed, LineMap.ofList]
              tail_loading := fun t ht => by cases hflight.symm.trans ht
              prefetch_shown := fun t ht => by cases hflight.symm.trans ht
              staged := fun p hp => by cases hpending.symm.trans hp }
    · exact absurd hkind_tail hnt
  · -- a range is loaded; a display left without lines has carried a buffered line
    have hbase : d.lines = [] → lines = [] ∧ streamed.lines = [] := fun hd =>
      LineMap.nil_of_insertAll_ofList ((LineMap.pruned_eq_nil_iff hmax hsize).mp hd)
    refine { loaded_of_total := fun _ _ => by simp
             unloaded_of_bare := fun _ hd hbuf => ?_
             empty_bare := fun hst => ?_
             tail_loading := fun t ht => by cases hflight.symm.trans ht
             prefetch_shown := fun t ht => by cases hflight.symm.trans ht
             staged := fun p hp => by cases hpending.symm.trans hp }
    · obtain ⟨hlines_nil, hstreamed⟩ := hbase hd
      subst hlines_nil
      obtain ⟨n, hn⟩ : ∃ n, n ∈ newer := by
        cases newer with
        | nil => simp at hlo
        | cons n ns => exact ⟨n, List.mem_cons_self⟩
      obtain ⟨-, -, hsources⟩ := streamed_sources hsrc
      rcases hsources n hn with hs | hb
      · simp [LineMap.numbers, hstreamed] at hs
      · rw [show buffer = [] from hbuf] at hb
        cases hb
    · dsimp only at hst
      split at hst
      · rename_i hzero
        rw [LineMap.pruned_eq_nil_iff hmax hsize, ← List.length_eq_zero_iff]
        exact hzero
      · cases hst

/-- A current ticket is the load in flight; its result keeps what the window
knows as long as an empty tail reports an empty log. -/
theorem Known.complete (hk : w.Known) (hmax : 0 < w.config.maxDisplayLines)
    (hbatch : 0 < w.config.initialBatch) {ticket : LoadTicket}
    {result : Except LoadError LogChunk} {o : LoadOutcome}
    (hcurrent : ticket.generation = w.generation → w.task = some ticket.task →
      w.inFlight = some ticket)
    (hempty : w.EmptyTailsReportNone (.complete ticket result))
    (h : w.complete ticket result = .ok (w', o)) : w'.Known := by
  rcases complete_eq h with ⟨-, rfl, -⟩ | ⟨hgen, htask, hcur⟩
  · exact hk
  have hflight := hcurrent hgen htask
  rw [if_pos hflight] at hcur
  -- with a load in flight nothing is staged
  have hpending : w.pending = none := by
    cases hp : w.pending with
    | none => rfl
    | some p =>
      have := (hk.staged p hp).2
      rw [hflight] at this
      cases this
  have hk₀ : Known { w with inFlight := none } :=
    { hk with
      tail_loading := fun t ht => by cases ht
      prefetch_shown := fun t ht => by cases ht
      staged := fun p hp => by cases hpending.symm.trans hp }
  rcases hcur with ⟨hkind, hp⟩ | ⟨hkind, hp⟩
  · exact hk₀.applyPrefetch hmax (hk.prefetch_shown ticket hflight hkind) rfl hp
  · refine hk₀.applyPrimary hmax hbatch hpending rfl hkind (hk.tail_loading ticket hflight)
      (fun chunk hr htail => ?_) hp
    subst hr
    exact hempty htail hgen

end Window

namespace Session

variable {s s' : Session} {op : WindowOp}

/-- A consistent session with one live load, a positive first batch, and a
window that knows what it has loaded. -/
structure Knows (s : Session) : Prop where
  consistent : s.Consistent
  live : OneLive s
  batch_pos : 0 < s.window.config.initialBatch
  known : s.window.Known

theorem Knows.step (hk : s.Knows) (hempty : s.window.EmptyTailsReportNone op)
    (h : Step Caller.wire s op s') : s'.Knows := by
  refine ⟨hk.consistent.step h, hk.live.step rfl h, h.config ▸ hk.batch_pos, ?_⟩
  have hlive := hk.live
  have hmax := hk.consistent.window.maxDisplay_pos
  have hbatch := hk.batch_pos
  cases h with
  | @mk w held _ w' issued hallow hperf =>
  have hkw : w.Known := hk.known
  have hop := Window.perform_eq_ok hperf
  cases op with
  | openTask task =>
    rw [hop.1]
    exact Window.known_openTask w task
  | reload =>
    cases htask : w.task with
    | none =>
      rw [Window.reload_of_none htask] at hop
      cases hop
      exact hkw
    | some task =>
      rw [Window.reload_of_task htask] at hop
      cases hop
      exact Window.known_openTask w task
  | close =>
    rw [hop.1]
    exact Window.known_reset w
  | loadRange first last =>
    rcases hop with hr | ⟨-, rfl, -⟩
    · exact hkw.loadRange hr
    · exact hkw
  | complete t r =>
    obtain ⟨-, o, hcomp⟩ := hop
    exact hkw.complete hmax hbatch (fun hgen _ => hlive.current t hallow.1 hgen) hempty hcomp
  | append task l =>
    obtain ⟨-, b, ha⟩ := hop
    exact hkw.appendStreamed hmax ha
  | flush =>
    obtain ⟨-, r, hf⟩ := hop
    exact hkw.flush hmax hf
  | prefetch position height => exact hkw.prefetchAbove hop
  | commit =>
    obtain ⟨-, b, hcommit⟩ := hop
    exact hkw.commitPrefetch hmax hcommit
  | onScroll => exact hkw.onScroll hmax hop
  | setRows _ | scroll _ | toTop | toBottom =>
    obtain ⟨-, sc, v, rfl⟩ := hop
    exact { hkw with }

theorem knows_start {c : WindowConfig} (hbatch : 0 < c.initialBatch)
    (hmax : 0 < c.maxDisplayLines) (hflush : 0 < c.flushThreshold) : (start c).Knows where
  consistent := consistent_start hmax hflush
  live := ⟨fun _ ht => (by cases ht), fun _ ht => (by cases ht), fun _ ht => (by cases ht)⟩
  batch_pos := hbatch
  known := Window.known_of_idle rfl rfl rfl rfl rfl

/-- Along a run in which empty tails report an empty log, a window that has not failed
and knows of lines has a loaded range and a header; it says "No logs available."
only while its lines wait in the buffer. -/
theorem known_lines_loaded {c : WindowConfig} (hbatch : 0 < c.initialBatch)
    (hmax : 0 < c.maxDisplayLines) (hflush : 0 < c.flushThreshold) {ops : List WindowOp}
    (h : GuardedRun Caller.wire Window.EmptyTailsReportNone (start c) ops s)
    (hok : ¬ s.window.Failed) (htotal : 0 < s.window.totalLines) :
    (∃ r, s.window.loaded = some r) ∧ s.window.header ≠ "" ∧
      (s.window.state = .empty → s.window.display.lines = [] ∧ s.window.buffer ≠ []) := by
  have hk := h.induction _ (fun _ _ _ hk hg hs => hk.step hg hs) (knows_start hbatch hmax hflush)
  have hloaded := hk.known.loaded_of_total hok htotal
  -- a window that knows of lines has a task, so it is not idle
  have hidle : s.window.state ≠ .idle := fun hidle => by
    have := (hk.consistent.window.closed (hk.consistent.window.idle_iff.mp hidle)).2.2.1
    omega
  obtain ⟨r, hr⟩ := Option.ne_none_iff_exists'.mp hloaded
  refine ⟨⟨r, hr⟩, ?_, fun hst => ?_⟩
  · unfold Window.header
    cases hst : s.window.state with
    | idle => exact absurd hst hidle
    | lines => simp [hr]
    | loading | empty | error m => simp
  · have hbare := hk.known.empty_bare hst
    exact ⟨hbare, fun hbuf => hloaded (hk.known.unloaded_of_bare hok hbare hbuf)⟩

/-- A line streamed while the tail of an empty log loads: the window knows of it
and says "No logs available." until the next flush shows it. -/
theorem known_lines_buffered :
    ∃ s, GuardedRun Caller.wire Window.EmptyTailsReportNone (start {})
        [.openTask 7, .append 7 (LogLine.numbered 3),
          .complete ⟨1, 7, .tail, 0, 0⟩ (.ok ⟨[], 0⟩)] s ∧
      0 < ({} : WindowConfig).initialBatch ∧ 0 < ({} : WindowConfig).maxDisplayLines ∧
      0 < ({} : WindowConfig).flushThreshold ∧ ¬ s.window.Failed ∧ 0 < s.window.totalLines ∧
      s.window.header = "No logs available." ∧
      ((∃ r, s.window.loaded = some r) ∧ s.window.header ≠ "" ∧
        (s.window.state = .empty → s.window.display.lines = [] ∧ s.window.buffer ≠ [])) := by
  have hrun := (((GuardedRun.nil : GuardedRun Caller.wire Window.EmptyTailsReportNone
    (start {}) [] _).perform (.openTask 7) trivial trivial rfl).perform
      (.append 7 (LogLine.numbered 3)) trivial trivial rfl).perform
      (.complete ⟨1, 7, .tail, 0, 0⟩ (.ok ⟨[], 0⟩)) (fun _ _ _ => rfl)
      ⟨by decide, .inr ⟨[], 0, ⟨[], 0⟩, rfl, rfl⟩⟩ rfl
  exact ⟨_, hrun, by decide, by decide, by decide, Window.not_failed_of_empty rfl, by decide, rfl,
    known_lines_loaded (by decide) (by decide) (by decide) hrun (Window.not_failed_of_empty rfl)
      (by decide)⟩

/-- A tail result that brings no lines but reports five leaves an empty window
that knows of five lines and has no range loaded. -/
theorem known_lines_unloaded :
    ∃ s, Run Caller.wire (start {})
        [.openTask 7, .complete ⟨1, 7, .tail, 0, 0⟩ (.ok ⟨[], 5⟩)] s ∧
      s.window.state = .empty ∧ s.window.totalLines = 5 ∧ s.window.loaded = none ∧
      s.window.header = "No logs available." := by
  have hrun := ((Run.nil : Run Caller.wire (start {}) [] _).perform (.openTask 7) trivial
    rfl).perform (.complete ⟨1, 7, .tail, 0, 0⟩ (.ok ⟨[], 5⟩))
      ⟨by decide, .inr ⟨[], 5, ⟨[], 5⟩, rfl, rfl⟩⟩ rfl
  exact ⟨_, hrun, rfl, rfl, rfl, rfl⟩

end Session

end TaskConsole
