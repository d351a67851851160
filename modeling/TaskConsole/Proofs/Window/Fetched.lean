import TaskConsole.Proofs.Window.Fencing
import TaskConsole.Proofs.Window.Known

/-! Every number of the loaded range was delivered since the last reset while streamed
lines land in or beside it (`loaded_lines_delivered`); a far resent line widens it
(`resent_line_widens_loaded`). -/

namespace TaskConsole

/-- What is left of the operations `acc` after `op`: nothing once the window
starts afresh. -/
def WindowOp.keepSince (acc : List WindowOp) : WindowOp → List WindowOp
  | .openTask _ | .reload | .close => []
  | op => acc ++ [op]

/-- The operations after the last one that started the window afresh. -/
def sinceReset (ops : List WindowOp) : List WindowOp :=
  ops.foldl WindowOp.keepSince []

theorem sinceReset_snoc_of_resets {ops : List WindowOp} {op : WindowOp} (h : op.Resets) :
    sinceReset (ops ++ [op]) = [] := by
  cases op <;> first | rfl | exact h.elim | simp [sinceReset, List.foldl_append, WindowOp.keepSince]

theorem sinceReset_snoc {ops : List WindowOp} {op : WindowOp} (h : ¬ op.Resets) :
    sinceReset (ops ++ [op]) = sinceReset ops ++ [op] := by
  cases op <;> first | exact (h trivial).elim | simp [sinceReset, List.foldl_append, WindowOp.keepSince]

/-- The numbers of the lines `op` delivers to `w`. -/
def WindowOp.DeliversNumber (op : WindowOp) (w : Window) (n : Nat) : Prop :=
  ∃ l, l.number = n ∧ op.Delivers w l

/-- Numbers delivered since the window last started afresh stay delivered after
one more operation that does not start it afresh; and the numbers that
operation delivers to a window of `task` join them. -/
theorem delivered_snoc {ops : List WindowOp} {op : WindowOp} {w : Window} {task n : Nat}
    (hres : ¬ op.Resets) (htask : ∀ k, w.task = some k → k = task)
    (h : (∃ l, l.number = n ∧ Delivered (sinceReset ops) task w.generation l) ∨
      op.DeliversNumber w n) :
    ∃ l, l.number = n ∧ Delivered (sinceReset (ops ++ [op])) task w.generation l := by
  rw [sinceReset_snoc hres]
  have hop : op ∈ sinceReset ops ++ [op] := List.mem_append_right _ (List.mem_singleton_self _)
  rcases h with ⟨l, hn, hl⟩ | ⟨l, hn, ⟨t, chunk, rfl, hgen, hopen, hlc⟩ | ⟨k, rfl, hopen⟩⟩
  · exact ⟨l, hn, hl.append [op]⟩
  · exact ⟨l, hn, .inl ⟨t, chunk, hop, htask _ hopen, Nat.le_of_eq hgen.symm, hlc⟩⟩
  · obtain rfl := htask k hopen
    exact ⟨l, hn, .inr hop⟩

namespace Window

variable {w w' : Window} {task L : Nat} {D D' : Nat → Prop}

/-- A line streamed lies in the loaded range or right next to it. -/
def StreamsBeside (w : Window) : WindowOp → Prop
  | .append _ l => ∀ r, w.loaded = some r → r.first ≤ l.number + 1 ∧ l.number ≤ r.last + 1
  | _ => True

/-- Where the loaded range of a window of `task`, fed by a log of `L` lines, comes
from: its numbers are in `D`, and loads in flight or staged reach up to it. -/
structure Fetched (task L : Nat) (D : Nat → Prop) (w : Window) : Prop where
  task_eq : ∀ k, w.task = some k → k = task
  total_le : w.totalLines ≤ L
  total_eq : w.state = .lines ∨ w.state = .empty → w.totalLines = L
  last_eq : ∀ r, w.loaded = some r → r.last = w.totalLines
  unloaded : w.loaded = none → w.totalLines = 0
  fetched : ∀ r, w.loaded = some r → ∀ n, r.first ≤ n → n ≤ r.last → D n
  inFlight : ∀ t, w.inFlight = some t → t.kind = .tail ∧ t.first = 0 ∧ t.last = 0 ∨
    t.kind = .prefetch ∧ 1 ≤ t.first ∧ w.state = .lines ∧
      ∃ r, w.loaded = some r ∧ r.first ≤ t.last + 1
  staged : ∀ p, w.pending = some p → w.state = .lines ∧ w.inFlight = none ∧
    ∃ r, w.loaded = some r ∧ ∀ n, p.range.first ≤ n → n < r.first → D n

theorem Fetched.mono (hf : w.Fetched task L D) (h : ∀ n, D n → D' n) : w.Fetched task L D' :=
  { hf with
    fetched := fun r hr n h1 h2 => h n (hf.fetched r hr n h1 h2)
    staged := fun p hp => by
      obtain ⟨hs, hflight, r, hr, hD⟩ := hf.staged p hp
      exact ⟨hs, hflight, r, hr, fun n h1 h2 => h n (hD n h1 h2)⟩ }

/-- A window without a task has loaded nothing. -/
theorem fetched_of_closed (hb : w.Bounded) (htask : w.task = none) : w.Fetched task L D := by
  obtain ⟨-, -, htotal, hloaded, hpending, hflight⟩ := hb.closed htask
  have hidle := hb.idle_iff.mpr htask
  exact { task_eq := fun _ h => by rw [htask] at h; cases h
          total_le := htotal ▸ Nat.zero_le L
          total_eq := fun h => by rcases h with h | h <;> rw [hidle] at h <;> cases h
          last_eq := fun _ h => by rw [hloaded] at h; cases h
          unloaded := fun _ => htotal
          fetched := fun _ h => by rw [hloaded] at h; cases h
          inFlight := fun _ h => by rw [hflight] at h; cases h
          staged := fun _ h => by rw [hpending] at h; cases h }

theorem fetched_openTask (w : Window) (L : Nat) (D : Nat → Prop) :
    (w.openTask task).1.Fetched task L D where
  task_eq := fun _ h => by cases h; rfl
  total_le := Nat.zero_le L
  total_eq := fun h => by rcases h with h | h <;> cases h
  last_eq := fun _ h => by cases h
  unloaded := fun _ => rfl
  fetched := fun _ h => by cases h
  inFlight := fun _ h => by cases h; exact .inl ⟨rfl, rfl, rfl⟩
  staged := fun _ h => by cases h

theorem Fetched.prefetchAbove (hf : w.Fetched task L D) {position height : Nat}
    {t? : Option LoadTicket} (h : w.prefetchAbove position height = (w', t?)) :
    w'.Fetched task L D := by
  rcases prefetchAbove_eq h with ⟨-, rfl⟩ |
    ⟨task', loaded, -, hloaded, hstate, -, -, hpending, hfirst, rfl, rfl⟩
  · exact hf
  · exact { hf with
      inFlight := fun t ht => by
        cases ht
        exact .inr ⟨rfl, Nat.le_max_left _ _, hstate, loaded, hloaded, by dsimp only; omega⟩
      staged := fun p hp => by cases hpending.symm.trans hp }

/-- Splicing lowers the range to the staged lines, which are delivered up to it. -/
theorem Fetched.commitPrefetch (hf : w.Fetched task L D) {b : Bool}
    (h : w.commitPrefetch = .ok (w', b)) : w'.Fetched task L D := by
  rcases commitPrefetch_eq h with ⟨-, rfl, -⟩ | ⟨staged, d, s, hpending, -, rfl, -, -⟩
  · exact hf
  obtain ⟨hstate, hflight, r, hr, hstaged⟩ := hf.staged staged hpending
  have hloaded : (w.loaded.map fun r => { r with first := min r.first staged.range.first }) =
      some ⟨min r.first staged.range.first, r.last⟩ := by
    simp [hr]
  refine { hf with
    last_eq := fun r' hr' => ?_
    unloaded := fun h => by rw [hloaded] at h; cases h
    fetched := fun r' hr' n h1 h2 => ?_
    inFlight := fun t ht => by rw [hflight] at ht; cases ht
    staged := fun _ hp => by cases hp }
  · rw [hloaded] at hr'
    cases hr'
    exact hf.last_eq r hr
  · rw [hloaded] at hr'
    cases hr'
    dsimp only at h1 h2
    -- below the old range the number is one the staged prefetch delivered
    by_cases hn : r.first ≤ n
    · exact hf.fetched r hr n hn h2
    · exact hstaged n (by omega) (by omega)

/-- A flush turns an empty window to showing lines and keeps every other state. -/
theorem shown_of_flushedState
    (h : (if w.state = .empty then DisplayState.lines else w.state) = .lines ∨
      (if w.state = .empty then DisplayState.lines else w.state) = .empty) :
    w.state = .lines ∨ w.state = .empty := by
  split at h
  · exact .inr ‹_›
  · exact h

/-- A flush moves lines into the display and leaves the range. -/
theorem Fetched.flush (hf : w.Fetched task L D) {r : FlushReport} (h : w.flush = .ok (w', r)) :
    w'.Fetched task L D := by
  rcases flush_eq h with ⟨-, rfl⟩ | ⟨d, s, -, rfl, -, -⟩
  · exact hf
  exact { hf with
    total_eq := fun hs => hf.total_eq (shown_of_flushedState hs)
    inFlight := fun t ht => by
      rcases hf.inFlight t ht with htail | ⟨hk, h1, hs, rest⟩
      · exact .inl htail
      · exact .inr ⟨hk, h1, flushedState_eq hs (by simp), rest⟩
    staged := fun p hp => by
      obtain ⟨hs, rest⟩ := hf.staged p hp
      exact ⟨flushedState_eq hs (by simp), rest⟩ }

theorem Fetched.onScroll (hf : w.Fetched task L D) {t? : Option LoadTicket}
    (h : w.onScroll = .ok (w', t?)) : w'.Fetched task L D := by
  obtain ⟨w₁, hp, ⟨-, -, b, hcommit⟩ | ⟨-, rfl⟩⟩ := onScroll_eq h
  · exact (hf.prefetchAbove hp).commitPrefetch hcommit
  · exact hf.prefetchAbove hp

/-- A streamed line of `task` next to or inside the range widens the range to
reach it, and the line is delivered; the log grows to reach it. -/
theorem Fetched.appendStreamed (hf : w.Fetched task L D) (hb : w.Bounded) {l : LogLine}
    (hbeside : ∀ r, w.loaded = some r → r.first ≤ l.number + 1 ∧ l.number ≤ r.last + 1)
    {b : Bool} (h : w.appendStreamed task l = .ok (w', b)) :
    w'.Fetched task (max L l.number) fun n => D n ∨ (WindowOp.append task l).DeliversNumber w n := by
  rcases appendStreamed_eq h with ⟨hrefused, hsame⟩ | ⟨htask, -, first, w₁, hfirst, hw₁, hw'⟩
  · -- a refused line leaves a window without a task, or one the log already reaches
    rw [hsame]
    rcases hrefused with hother | hzero
    · have hnone : w.task = none := by
        cases ht : w.task with
        | none => rfl
        | some k => exact absurd (ht.trans (congrArg some (hf.task_eq k ht))) hother
      exact fetched_of_closed hb hnone
    · rw [hzero, Nat.max_zero]
      exact hf.mono fun n hn => .inl hn
  -- the new range is the old one and the line, which lies next to it
  have hrange : ∀ m, first ≤ m → m ≤ max w.totalLines l.number → D m ∨ m = l.number := by
    intro m h1 h2
    rcases hfirst with ⟨hnone, rfl⟩ | ⟨r, hr, rfl⟩
    · have := hf.unloaded hnone
      exact .inr (by omega)
    · have hlast := hf.last_eq r hr
      have hnext := hbeside r hr
      by_cases hin : r.first ≤ m ∧ m ≤ r.last
      · exact .inl (hf.fetched r hr m hin.1 hin.2)
      · exact .inr (by omega)
  -- a staged prefetch or a prefetch in flight lies below a range that starts no later
  have hlower : ∀ r, w.loaded = some r → first ≤ r.first := by
    intro r hr
    rcases hfirst with ⟨hnone, -⟩ | ⟨r', hr', rfl⟩
    · rw [hnone] at hr
      cases hr
    · rw [hr] at hr'
      cases hr'
      exact Nat.min_le_left _ _
  subst hw₁
  have hf₁ : Fetched task (max L l.number)
      (fun n => D n ∨ (WindowOp.append task l).DeliversNumber w n)
      { w with
        totalLines := max w.totalLines l.number
        loaded := some ⟨first, max w.totalLines l.number⟩
        buffer := w.buffer ++ [l] } :=
    { task_eq := hf.task_eq
      total_le := by
        have := hf.total_le
        dsimp only
        omega
      total_eq := fun hs => by
        have := hf.total_eq hs
        dsimp only
        omega
      last_eq := fun r hr => by cases hr; rfl
      unloaded := fun h => by cases h
      fetched := fun r hr m h1 h2 => by
        cases hr
        rcases hrange m h1 h2 with hm | rfl
        · exact .inl hm
        · exact .inr ⟨l, rfl, .inr ⟨task, rfl, htask⟩⟩
      inFlight := fun t ht => by
        rcases hf.inFlight t ht with htail | ⟨hk, h1, hs, r, hr, hle⟩
        · exact .inl htail
        · exact .inr ⟨hk, h1, hs, _, rfl, Nat.le_trans (hlower r hr) hle⟩
      staged := fun p hp => by
        obtain ⟨hs, hflight, r, hr, hD⟩ := hf.staged p hp
        exact ⟨hs, hflight, _, rfl, fun m h1 h2 =>
          .inl (hD m h1 (Nat.lt_of_lt_of_le h2 (hlower r hr)))⟩ }
  rcases hw' with ⟨-, rfl⟩ | ⟨-, r, hflush⟩
  · exact hf₁
  · exact hf₁.flush hflush

/-- A prefetch result for lines from `t.first` up to the range, read from the
log, keeps the range and stages delivered lines right below it. -/
theorem Fetched.applyPrefetch (hf : w.Fetched task L D) (hb : w.Bounded)
    (hflight : w.inFlight = none) (hstate : w.state = .lines) {r : LineRange}
    (hr : w.loaded = some r) {log : NumberedLog} (hL : log.length = L) {t : LoadTicket}
    (hfirst : 1 ≤ t.first) (hle : r.first ≤ t.last + 1) {chunk : LogChunk}
    (hread : log.read t.first t.last = .ok chunk) {o : LoadOutcome}
    (h : w.applyPrefetch (.ok chunk) = .ok (w', o)) :
    w'.Fetched task L fun n => D n ∨ n ∈ chunk.lines.map (·.number) := by
  have htotal := hf.total_eq (.inl hstate)
  have hlast := hf.last_eq r hr
  have hwithin := hb.loaded_within r hr
  obtain ⟨hnum, hchunk⟩ := NumberedLog.read_range_numbers hfirst hread
  -- the chunk holds every line from its first one up to the range
  have hbelow : ∀ n, t.first ≤ n → n < r.first → n ∈ chunk.lines.map (·.number) := by
    intro n h1 h2
    rw [hnum, List.mem_range'_1]
    omega
  have hkeep : ∀ k, (w.loaded = some r → k ≤ L) → max w.totalLines k = L →
      ∀ r', w.loaded = some r' → r'.last = max w.totalLines k := by
    intro k _ hk r' hr'
    rw [hr] at hr'
    cases hr'
    omega
  rcases applyPrefetch_eq h with ⟨e, he, -, -⟩ |
    ⟨chunk', hc, -, ⟨-, rfl⟩ | ⟨lo, hi, w₁, hlo, -, hw₁, hw'⟩⟩
  · cases he
  · cases hc
    exact { (hf.mono fun n hn => .inl hn) with
      total_le := by dsimp only; omega
      total_eq := fun _ => by dsimp only; omega
      last_eq := hkeep _ (fun _ => by omega) (by omega)
      unloaded := fun h => by rw [hr] at h; cases h }
  · cases hc
    subst hw₁
    have hlo_first : t.first ≤ lo.number := by
      have hmem := List.mem_map_of_mem (f := (·.number))
        (List.mem_filter.mp (List.mem_of_mem_head? hlo)).1
      rw [hnum, List.mem_range'_1] at hmem
      exact hmem.1
    have hf₁ : Fetched task L (fun n => D n ∨ n ∈ chunk.lines.map (·.number))
        { w with
          totalLines := max w.totalLines chunk.totalLines
          moreAbove := decide (lo.number > 1)
          batchSize := min (w.batchSize * 2) w.config.maxBatch
          pending := some ⟨chunk.lines.filter (·.number < w.loadedStart),
            ⟨lo.number, hi.number⟩⟩ } :=
      { (hf.mono fun n hn => .inl hn) with
        total_le := by dsimp only; omega
        total_eq := fun _ => by dsimp only; omega
        last_eq := hkeep _ (fun _ => by omega) (by omega)
        unloaded := fun h => by rw [hr] at h; cases h
        staged := fun p hp => by
          cases hp
          exact ⟨hstate, hflight, r, hr, fun n h1 h2 =>
            .inr (hbelow n (Nat.le_trans hlo_first h1) h2)⟩ }
    rcases hw' with ⟨-, b, hcommit⟩ | ⟨-, rfl⟩
    · exact hf₁.commitPrefetch hcommit
    · exact hf₁

/-- The tail of the log, read into a window that knows of no line past it, loads
the range from the first line kept to the end of the log, all of it read. -/
theorem Fetched.applyPrimary (hf : w.Fetched task L D) (hb : w.Bounded)
    (hflight : w.inFlight = none) (hpending : w.pending = none)
    (hbatch : 0 < w.config.initialBatch) {log : NumberedLog} (hL : log.length = L)
    {ticket : LoadTicket} (hkind : ticket.kind = .tail) {chunk : LogChunk}
    (hread : log.read 0 0 = .ok chunk) {o : LoadOutcome}
    (h : w.applyPrimary ticket (.ok chunk) = .ok (w', o)) :
    w'.Fetched task L fun n => D n ∨ n ∈ chunk.lines.map (·.number) := by
  have hne : ¬(chunk.lines.isEmpty = true ∧ ticket.kind = .range) := by
    rw [hkind]
    simp
  obtain ⟨hnum, htotal⟩ := NumberedLog.read_tail_numbers hread
  rw [hL] at hnum htotal
  obtain ⟨a', ha'1, ha'n, hkept⟩ := primaryLines_run (w := w) ticket.kind
    (Nat.le_max_left 1 _) (Nat.max_le.mpr ⟨by omega, Nat.sub_le _ _⟩) hnum
  have hhead : (w.primaryLines ticket.kind chunk.lines).head?.map (·.number) =
      if L + 1 - a' = 0 then none else some a' := by
    rw [← List.head?_map, hkept, List.head?_range']
  have hlast : (w.primaryLines ticket.kind chunk.lines).getLast?.map (·.number) =
      if L + 1 - a' = 0 then none else some L := by
    rw [← List.getLast?_map, hkept, List.getLast?_range']
    split
    · rfl
    · have hend : a' + (L + 1 - a') - 1 = L := by omega
      rw [hend]
  -- a tail that keeps no line is the tail of an empty log
  have hempty : L + 1 - a' = 0 → L = 0 := by
    intro h0
    have hnil : w.primaryLines ticket.kind chunk.lines = [] := by
      rw [← List.map_eq_nil_iff, hkept, h0, List.range'_zero]
    have hlen := congrArg List.length hnum
    rw [primaryLines_eq_nil hbatch hnil, List.length_map, List.length_nil,
      List.length_range'] at hlen
    have : serverTailLines = 100 := rfl
    omega
  obtain ⟨-, streamed, buffer, newer, hsrc, hcase⟩ := applyPrimary_applied rfl hne h
  -- the window knows of no line past the end of the log, so nothing is carried past it
  have hnewer : newer = [] := by
    obtain ⟨-, hpast⟩ | ⟨hnt, -⟩ := hsrc
    · obtain ⟨hsub, -, hbsub, -, hcarried⟩ := streamedPast_eq hpast
      refine List.eq_nil_iff_forall_not_mem.mpr fun n hn => ?_
      obtain ⟨hfrom, hpast'⟩ := (hcarried n).mp hn
      have hknown : 1 ≤ n ∧ n ≤ L := by
        have := hf.total_le
        rcases hfrom with hs | hbuf
        · obtain ⟨x, hx, rfl⟩ := List.mem_map.mp hs
          have := hb.display_within x (hsub.subset hx)
          omega
        · obtain ⟨x, hx, rfl⟩ := List.mem_map.mp hbuf
          have := hb.buffer_within x (hbsub.subset hx)
          omega
      rw [hlast] at hpast'
      split at hpast'
      · have := hempty ‹_›
        omega
      · have := hpast' L rfl
        omega
    · exact absurd hkind hnt
  subst hnewer
  have htotal_le := hf.total_le
  rcases hcase with ⟨hnone, rfl⟩ | ⟨lo, hi, d, s, hlo, hhi, rfl, -, -⟩
  · -- nothing kept: the log is empty
    have h0 : L + 1 - a' = 0 := by
      refine Classical.byContradiction fun hpos => ?_
      rw [hhead, hlast, if_neg hpos, if_neg hpos] at hnone
      simp at hnone
    have hL0 := hempty h0
    exact { task_eq := hf.task_eq
            total_le := by dsimp only; omega
            total_eq := fun _ => by dsimp only; omega
            last_eq := fun _ h => by cases h
            unloaded := fun _ => by dsimp only; omega
            fetched := fun _ h => by cases h
            inFlight := fun _ h => by cases hflight.symm.trans h
            staged := fun _ h => by cases hpending.symm.trans h }
  · -- the lines kept run from `a'` to the end of the log
    have hpos : L + 1 - a' ≠ 0 := by
      intro h0
      rw [hhead, if_pos h0] at hlo
      simp at hlo
    rw [hhead, if_neg hpos] at hlo
    rw [hlast, if_neg hpos] at hhi
    simp only [Option.orElse_eq_orElse, Option.orElse_eq_or, Option.some_or,
      Option.some.injEq] at hlo
    simp at hhi
    subst hlo hhi
    exact { task_eq := hf.task_eq
            total_le := by dsimp only; omega
            total_eq := fun _ => by dsimp only; omega
            last_eq := fun r hr => by cases hr; dsimp only; omega
            unloaded := fun h => by cases h
            fetched := fun r hr n h1 h2 => by
              cases hr
              refine .inr (List.Sublist.subset (List.Sublist.map _ (primaryLines_sublist
                (w := w) ticket.kind chunk.lines)) ?_)
              rw [hkept, List.mem_range'_1]
              dsimp only at h1 h2
              omega
            inFlight := fun _ h => by cases hflight.symm.trans h
            staged := fun _ h => by cases hpending.symm.trans h }

/-- A current ticket is the load in flight; its result, read from the log, keeps
the range attributed to what was delivered, now with the lines of the result. -/
theorem Fetched.complete (hf : w.Fetched task L D) (hb : w.Bounded)
    (hbatch : 0 < w.config.initialBatch) {log : NumberedLog} (hL : log.length = L)
    {ticket : LoadTicket} {chunk : LogChunk} {o : LoadOutcome}
    (hcurrent : ticket.generation = w.generation → w.task = some ticket.task →
      w.inFlight = some ticket)
    (hread : log.read ticket.first ticket.last = .ok chunk)
    (h : w.complete ticket (.ok chunk) = .ok (w', o)) :
    w'.Fetched task L fun n => D n ∨ (WindowOp.complete ticket (.ok chunk)).DeliversNumber w n := by
  rcases complete_eq h with ⟨-, rfl, -⟩ | ⟨hgen, htask, hcur⟩
  · exact hf.mono fun n hn => .inl hn
  have hflight := hcurrent hgen htask
  rw [if_pos hflight] at hcur
  -- every line of the result is delivered by this step
  have hdel : ∀ n, n ∈ chunk.lines.map (·.number) →
      (WindowOp.complete ticket (.ok chunk)).DeliversNumber w n := by
    intro n hn
    obtain ⟨x, hx, rfl⟩ := List.mem_map.mp hn
    exact ⟨x, rfl, .inl ⟨ticket, chunk, rfl, hgen, htask, hx⟩⟩
  -- with a load in flight nothing is staged
  have hpending : w.pending = none := by
    cases hp : w.pending with
    | none => rfl
    | some p =>
      have := (hf.staged p hp).2.1
      rw [hflight] at this
      cases this
  have hf₀ : Fetched task L D { w with inFlight := none } :=
    { hf with
      inFlight := fun _ h => by cases h
      staged := fun p hp => by cases hpending.symm.trans hp }
  have hb₀ : Bounded { w with inFlight := none } :=
    { hb with closed := fun h => absurd (htask.symm.trans h) (by simp) }
  rcases hf.inFlight ticket hflight with ⟨hkind, h0, h0'⟩ | ⟨hkind, h1, hstate, r, hr, hle⟩
  · rcases hcur with ⟨hk, -⟩ | ⟨-, hp⟩
    · rw [hkind] at hk
      cases hk
    · rw [h0, h0'] at hread
      exact (hf₀.applyPrimary hb₀ rfl hpending hbatch hL hkind hread hp).mono
        fun n hn => hn.imp id (hdel n)
  · rcases hcur with ⟨-, hp⟩ | ⟨hk, -⟩
    · exact (hf₀.applyPrefetch hb₀ rfl hstate hr hL h1 hle hread hp).mono
        fun n hn => hn.imp id (hdel n)
    · exact absurd hkind hk

/-- An operation that neither starts the window afresh nor jumps to a range
keeps its generation. -/
theorem perform_generation {op : WindowOp} {issued : Option LoadTicket}
    (h : w.perform op = .ok (w', issued)) (hres : ¬ op.Resets)
    (hrange : ∀ first last, op ≠ .loadRange first last) : w'.generation = w.generation := by
  have hop := perform_eq_ok h
  cases op with
  | openTask _ | reload | close => exact (hres trivial).elim
  | loadRange first last => exact absurd rfl (hrange first last)
  | complete t r =>
    obtain ⟨-, o, hc⟩ := hop
    rcases complete_tickets hc with ⟨-, rfl, -⟩ | ⟨-, -, -, htickets⟩
    · rfl
    · exact (tickets_eq_iff.mp htickets).1
  | append task l =>
    obtain ⟨-, b, ha⟩ := hop
    exact congrArg (·.1) (appendStreamed_tickets ha)
  | flush =>
    obtain ⟨-, r, hflush⟩ := hop
    exact congrArg (·.1) (flush_tickets hflush)
  | prefetch position height =>
    rcases prefetchAbove_eq hop with ⟨-, rfl⟩ | ⟨_, _, -, -, -, -, -, -, -, -, rfl⟩ <;> rfl
  | commit =>
    obtain ⟨-, b, hc⟩ := hop
    exact congrArg (·.1) (commitPrefetch_tickets hc)
  | onScroll =>
    obtain ⟨w₁, hp, hcommit⟩ := onScroll_eq hop
    have hgen₁ : w₁.generation = w.generation := by
      rcases prefetchAbove_eq hp with ⟨-, rfl⟩ | ⟨_, _, -, -, -, -, -, -, -, -, rfl⟩ <;> rfl
    rcases hcommit with ⟨-, -, b, hc⟩ | ⟨-, rfl⟩
    · exact (congrArg (·.1) (commitPrefetch_tickets hc)).trans hgen₁
    · exact hgen₁
  | setRows _ | scroll _ | toTop | toBottom =>
    obtain ⟨-, sc, v, rfl⟩ := hop
    rfl

end Window

namespace Session

variable {task : Nat} {log₀ log : NumberedLog} {s₀ s s' : Session} {ops : List WindowOp}
  {op : WindowOp} {guard : Window → WindowOp → Prop}

/-- What a server that may send lines again lets happen to the window of `task`: its
lines for each ticket, no range jump, streamed lines of the log or its next one. -/
def Resends (task : Nat) (log : NumberedLog) : WindowOp → Prop
  | .openTask k => k = task
  | .loadRange _ _ => False
  | .complete t r => ∃ chunk, log.read t.first t.last = .ok chunk ∧ r = .ok chunk
  | .append k l => k = task ∧ l.number ≤ log.length + 1
  | _ => True

/-- The log after `op`: a streamed line past its end is its next one. -/
def extended (log : NumberedLog) : WindowOp → NumberedLog
  | .append _ l => ⟨max log.length l.number⟩
  | _ => log

/-- Runs of a window fed by a server that may send lines again: each ticket is
answered at most once, with the log's lines for it, and every operation meets
`guard`. -/
inductive Resent (task : Nat) (guard : Window → WindowOp → Prop) (log₀ : NumberedLog)
    (s₀ : Session) : List WindowOp → NumberedLog → Session → Prop
  | nil : Resent task guard log₀ s₀ [] log₀ s₀
  | snoc {ops : List WindowOp} {log : NumberedLog} {s s' : Session} {op : WindowOp} :
      Resent task guard log₀ s₀ ops log s → Step Caller.wire s op s' → Resends task log op →
      guard s.window op → Resent task guard log₀ s₀ (ops ++ [op]) (extended log op) s'

/-- A run fed by a resending server goes on by one operation the window performs. -/
theorem Resent.perform {w w' : Window} {held : List LoadTicket} {issued : Option LoadTicket}
    (h : Resent task guard log₀ s₀ ops log ⟨w, held⟩) (op : WindowOp) (hg : guard w op)
    (hallow : Caller.wire.Allows held op) (hperf : w.perform op = .ok (w', issued))
    (hfeeds : Resends task log op) :
    Resent task guard log₀ s₀ (ops ++ [op]) (extended log op)
      ⟨w', Caller.wire.keep held op issued⟩ :=
  h.snoc (.mk hallow hperf) hfeeds hg

/-- A consistent session with one live load and a positive first batch, whose
loaded range holds only numbers delivered since the window last started afresh. -/
structure Fetches (task : Nat) (log : NumberedLog) (ops : List WindowOp) (s : Session) :
    Prop where
  consistent : s.Consistent
  live : OneLive s
  batch_pos : 0 < s.window.config.initialBatch
  fetched : s.window.Fetched task log.length fun n =>
    ∃ l, l.number = n ∧ Delivered (sinceReset ops) task s.window.generation l

theorem Fetches.step (hf : s.Fetches task log ops) (h : Step Caller.wire s op s')
    (hfeed : Resends task log op) (hbeside : s.window.StreamsBeside op) :
    s'.Fetches task (extended log op) (ops ++ [op]) := by
  have hcons' := hf.consistent.step h
  refine ⟨hcons', hf.live.step rfl h, h.config ▸ hf.batch_pos, ?_⟩
  have hlive := hf.live
  have hb := hf.consistent.window.toBounded
  have hbatch := hf.batch_pos
  have hfw := hf.fetched
  cases h with
  | @mk w held _ w' issued hallow hperf =>
  have hb' : w'.Bounded := hcons'.window.toBounded
  have hop := Window.perform_eq_ok hperf
  show w'.Fetched task (extended log op).length fun n =>
    ∃ l, l.number = n ∧ Delivered (sinceReset (ops ++ [op])) task w'.generation l
  by_cases hres : op.Resets
  · -- the window starts afresh: it opens the task, or it has no task
    rw [sinceReset_snoc_of_resets hres]
    cases op with
    | openTask k =>
      cases hfeed
      rw [hop.1]
      exact Window.fetched_openTask w _ _
    | reload =>
      cases htask : w.task with
      | none =>
        rw [Window.reload_of_none htask] at hop
        cases hop
        exact Window.fetched_of_closed hb htask
      | some k =>
        rw [Window.reload_of_task htask] at hop
        cases hop
        cases hfw.task_eq k htask
        exact Window.fetched_openTask w _ _
    | close =>
      rw [hop.1] at hb' ⊢
      exact Window.fetched_of_closed hb' rfl
    | _ => exact hres.elim
  -- otherwise the generation stays and the step's deliveries join the others
  have hgen : w'.generation = w.generation :=
    Window.perform_generation hperf hres fun first last hop' => by
      subst hop'
      exact hfeed
  rw [hgen]
  suffices hstep : w'.Fetched task (extended log op).length fun n =>
      (∃ l, l.number = n ∧ Delivered (sinceReset ops) task w.generation l) ∨
        op.DeliversNumber w n from
    hstep.mono fun n hn => delivered_snoc hres hfw.task_eq hn
  cases op with
  | openTask _ | reload | close => exact (hres trivial).elim
  | loadRange _ _ => exact hfeed.elim
  | complete t r =>
    obtain ⟨chunk, hread, rfl⟩ := hfeed
    obtain ⟨-, o, hc⟩ := hop
    exact hfw.complete hb hbatch rfl (fun hgen _ => hlive.current t hallow.1 hgen) hread hc
  | append k l =>
    obtain ⟨rfl, -⟩ := hfeed
    obtain ⟨-, b, ha⟩ := hop
    exact hfw.appendStreamed hb hbeside ha
  | flush =>
    obtain ⟨-, r, hflush⟩ := hop
    exact (hfw.flush hflush).mono fun n hn => .inl hn
  | prefetch position height => exact (hfw.prefetchAbove hop).mono fun n hn => .inl hn
  | commit =>
    obtain ⟨-, b, hc⟩ := hop
    exact (hfw.commitPrefetch hc).mono fun n hn => .inl hn
  | onScroll => exact (hfw.onScroll hop).mono fun n hn => .inl hn
  | setRows _ | scroll _ | toTop | toBottom =>
    obtain ⟨-, sc, v, rfl⟩ := hop
    exact { hfw.mono fun n hn => .inl hn with }

theorem fetches_start {c : WindowConfig} (hbatch : 0 < c.initialBatch)
    (hmax : 0 < c.maxDisplayLines) (hflush : 0 < c.flushThreshold) (log : NumberedLog) :
    (start c).Fetches task log [] where
  consistent := consistent_start hmax hflush
  live := ⟨fun _ ht => (by cases ht), fun _ ht => (by cases ht), fun _ ht => (by cases ht)⟩
  batch_pos := hbatch
  fetched := Window.fetched_of_closed (Window.consistent_new hmax hflush).toBounded rfl

theorem Resent.fetches {c : WindowConfig} (hbatch : 0 < c.initialBatch)
    (hmax : 0 < c.maxDisplayLines) (hflush : 0 < c.flushThreshold)
    (h : Resent task Window.StreamsBeside log₀ (start c) ops log s) : s.Fetches task log ops := by
  induction h with
  | nil => exact fetches_start hbatch hmax hflush log₀
  | snoc _ hstep hfeed hbeside ih => exact ih.step hstep hfeed hbeside

/-- While streamed lines land in or beside the loaded range, every number of the range
was delivered since the last reset, and a prefetch in flight reaches up to it. -/
theorem loaded_lines_delivered {c : WindowConfig} (hbatch : 0 < c.initialBatch)
    (hmax : 0 < c.maxDisplayLines) (hflush : 0 < c.flushThreshold)
    (h : Resent task Window.StreamsBeside log₀ (start c) ops log s) {r : LineRange}
    (hr : s.window.loaded = some r) :
    (∀ n, r.first ≤ n → n ≤ r.last →
      ∃ l, l.number = n ∧ Delivered (sinceReset ops) task s.window.generation l) ∧
      ∀ t, s.window.inFlight = some t → t.kind = .prefetch → r.first ≤ t.last + 1 := by
  have hf := (h.fetches hbatch hmax hflush).fetched
  refine ⟨hf.fetched r hr, fun t ht hkind => ?_⟩
  rcases hf.inFlight t ht with ⟨htail, -⟩ | ⟨-, -, -, r', hr', hle⟩
  · rw [hkind] at htail
    cases htail
  · rw [hr] at hr'
    cases hr'
    exact hle

/-- Line 2 sent again and line 4 streamed after a three-line tail: every number of
the range 1 to 4 was delivered. -/
theorem loaded_lines_delivered_after_resend :
    ∃ s, Resent 7 Window.StreamsBeside ⟨3⟩ (start {})
        [.openTask 7, .complete ⟨1, 7, .tail, 0, 0⟩
          (.ok ⟨[LogLine.numbered 1, LogLine.numbered 2, LogLine.numbered 3], 3⟩),
          .append 7 (LogLine.numbered 2), .append 7 (LogLine.numbered 4)] ⟨4⟩ s ∧
      0 < ({} : WindowConfig).initialBatch ∧ 0 < ({} : WindowConfig).maxDisplayLines ∧
      0 < ({} : WindowConfig).flushThreshold ∧ s.window.loaded = some ⟨1, 4⟩ ∧
      (∀ n, 1 ≤ n → n ≤ 4 → ∃ l, l.number = n ∧ Delivered (sinceReset
          [.openTask 7, .complete ⟨1, 7, .tail, 0, 0⟩
            (.ok ⟨[LogLine.numbered 1, LogLine.numbered 2, LogLine.numbered 3], 3⟩),
            .append 7 (LogLine.numbered 2), .append 7 (LogLine.numbered 4)])
          7 s.window.generation l) ∧
        ∀ t, s.window.inFlight = some t → t.kind = .prefetch → 1 ≤ t.last + 1 := by
  have hrun := ((((Resent.nil : Resent 7 Window.StreamsBeside ⟨3⟩ (start {}) [] _ _).perform
    (.openTask 7) trivial trivial rfl rfl).perform
      (.complete ⟨1, 7, .tail, 0, 0⟩
        (.ok ⟨[LogLine.numbered 1, LogLine.numbered 2, LogLine.numbered 3], 3⟩))
      trivial ⟨by decide, wire_answers_read ⟨3⟩ rfl⟩ rfl ⟨_, rfl, rfl⟩).perform
    (.append 7 (LogLine.numbered 2)) (fun r hr => by cases hr; decide) trivial rfl
      ⟨rfl, by decide⟩).perform
    (.append 7 (LogLine.numbered 4)) (fun r hr => by cases hr; decide) trivial rfl
      ⟨rfl, by decide⟩
  exact ⟨_, hrun, by decide, by decide, by decide, rfl,
    loaded_lines_delivered (by decide) (by decide) (by decide) hrun rfl⟩

set_option maxRecDepth 4000 in
/-- A tail of lines 101 to 200, then line 5 sent again: the range reaches down to
line 5, over lines 6 to 100 that nothing delivered. -/
theorem resent_line_widens_loaded :
    ∃ s, Resent 7 (fun _ _ => True) ⟨200⟩ (start {})
        [.openTask 7, .complete ⟨1, 7, .tail, 0, 0⟩
          (.ok ⟨(List.range 100).map fun i => LogLine.numbered (i + 101), 200⟩),
          .append 7 (LogLine.numbered 5)] ⟨200⟩ s ∧
      s.window.loaded = some ⟨5, 200⟩ ∧
      ¬ ∃ l, l.number = 6 ∧ Delivered (sinceReset
          [.openTask 7, .complete ⟨1, 7, .tail, 0, 0⟩
            (.ok ⟨(List.range 100).map fun i => LogLine.numbered (i + 101), 200⟩),
            .append 7 (LogLine.numbered 5)]) 7 s.window.generation l := by
  have hrun := (((Resent.nil : Resent 7 (fun _ _ => True) ⟨200⟩ (start {}) [] _ _).perform
    (.openTask 7) trivial trivial rfl rfl).perform
      (.complete ⟨1, 7, .tail, 0, 0⟩
        (.ok ⟨(List.range 100).map fun i => LogLine.numbered (i + 101), 200⟩))
      trivial ⟨by decide, wire_answers_read ⟨200⟩ rfl⟩ rfl ⟨_, rfl, rfl⟩).perform
    (.append 7 (LogLine.numbered 5)) trivial trivial rfl ⟨rfl, by decide⟩
  refine ⟨_, hrun, rfl, ?_⟩
  clear hrun
  -- the tail delivered lines 101 to 200, and the stream line 5
  rintro ⟨l, hl, ⟨t, chunk, hmem, -, -, hlc⟩ | hmem⟩
  · simp only [sinceReset, List.foldl_cons, List.foldl_nil, WindowOp.keepSince, List.nil_append,
      List.cons_append, List.mem_cons, WindowOp.complete.injEq,
      Except.ok.injEq, reduceCtorEq, or_false, List.not_mem_nil] at hmem
    obtain ⟨rfl, rfl⟩ := hmem
    obtain ⟨i, hi, rfl⟩ := List.mem_map.mp hlc
    simp [LogLine.numbered] at hl
  · simp only [sinceReset, List.foldl_cons, List.foldl_nil, WindowOp.keepSince, List.nil_append,
      List.cons_append, List.mem_cons, WindowOp.append.injEq,
      reduceCtorEq, false_or, true_and, List.not_mem_nil, or_false] at hmem
    rw [hmem] at hl
    exact absurd hl (by decide)

end Session

end TaskConsole
