import TaskConsole.Proofs.Window.Frame

/-! Prefetch batches: each asks for the lines right above the loaded range, and the
batch is `min (initialBatch * 2 ^ k) maxBatch` after `k` stagings
(`Session.prefetch_ranges_and_batch_growth`). -/

namespace TaskConsole

namespace Window

variable {w w' : Window}

/-- Whether `op` on `w` hands back the result of a current prefetch that stages
lines: a prefetch ticket of the window's generation and task, answered with
lines above the loaded range. -/
def stagesLines (w : Window) : WindowOp → Bool
  | .complete ticket (.ok chunk) =>
    ticket.kind == .prefetch && ticket.generation == w.generation &&
      w.task == some ticket.task && !(chunk.lines.filter (·.number < w.loadedStart)).isEmpty
  | _ => false

end Window

namespace WindowOp

/-- Whether `op`, having handed out `issued`, brings the first batch back:
opening, reloading or jumping to a range when it hands out a ticket, and
closing. -/
def restoresBatch : WindowOp → Option LoadTicket → Bool
  | .close, _ => true
  | .openTask _, issued | .reload, issued | .loadRange _ _, issued => issued.isSome
  | _, _ => false

end WindowOp

namespace Window

variable {w w' : Window}

/-- One operation of a replay: the window after it, and how many prefetch
results staged lines since the first batch was last brought back. -/
def batchReplay (acc : Window × Nat) (op : WindowOp) : Window × Nat :=
  match acc.1.perform op with
  | .ok (w', issued) =>
    (w', if op.restoresBatch issued then 0 else if acc.1.stagesLines op then acc.2 + 1 else acc.2)
  | .error _ => acc

/-- How many prefetch results staged lines since the first batch was last brought
back, along `ops` performed from `w`. -/
def stagingsSince (w : Window) (ops : List WindowOp) : Nat :=
  (ops.foldl batchReplay (w, 0)).2

/-- A prefetch ticket for the batch right above a loaded range starting at line
`first ≥ 2`: lines `max 1 (first - batchSize)` to `first - 1`. It asks for no
line 0, for none of the loaded range, and for `min batchSize (first - 1)` lines. -/
def AsksAbove (w : Window) (t : LoadTicket) : Prop :=
  ∃ r, w.loaded = some r ∧ 2 ≤ r.first ∧ t.kind = .prefetch ∧
    t.first = max 1 (r.first - w.batchSize) ∧ t.last = r.first - 1 ∧
    1 ≤ t.first ∧ t.last < r.first ∧ t.last + 1 - t.first = min w.batchSize (r.first - 1)

/-! ### The ticket of a prefetch -/

theorem prefetchAbove_asksAbove (hbatch : 1 ≤ w.batchSize) {position height : Nat}
    {t : LoadTicket} (h : w.prefetchAbove position height = (w', some t)) : w.AsksAbove t := by
  rcases prefetchAbove_eq h with ⟨hnone, -⟩ | ⟨task, r, -, hr, -, -, -, -, hfirst, ht, -⟩
  · cases hnone
  · cases ht
    -- the batch ends just above the range; its first line is cut at line 1
    exact ⟨r, hr, hfirst, rfl, by simp only; omega, rfl, by simp only; omega,
      by simp only; omega, by simp only; omega⟩

theorem onScroll_asksAbove (hbatch : 1 ≤ w.batchSize) {t : LoadTicket}
    (h : w.onScroll = .ok (w', some t)) : w.AsksAbove t := by
  obtain ⟨w₁, hp, -⟩ := onScroll_eq h
  exact prefetchAbove_asksAbove hbatch hp

/-! ### The batch after each operation -/

theorem commitPrefetch_batch {b : Bool} (h : w.commitPrefetch = .ok (w', b)) :
    w'.batchSize = w.batchSize ∧ w'.moreAbove = w.moreAbove := by
  rcases commitPrefetch_eq h with ⟨-, rfl, -⟩ | ⟨staged, d, s, -, -, rfl, -⟩ <;> exact ⟨rfl, rfl⟩

theorem flush_batchSize {r : FlushReport} (h : w.flush = .ok (w', r)) :
    w'.batchSize = w.batchSize := by
  rcases flush_eq h with ⟨-, rfl⟩ | ⟨d, s, -, rfl, -⟩ <;> rfl

theorem prefetchAbove_batchSize {position height : Nat} {t? : Option LoadTicket}
    (h : w.prefetchAbove position height = (w', t?)) : w'.batchSize = w.batchSize := by
  rcases prefetchAbove_eq h with ⟨-, rfl⟩ | ⟨task, loaded, -, -, -, -, -, -, -, -, rfl⟩ <;> rfl

/-- A prefetch result that stages lines doubles the batch up to its cap; one that
stages nothing records that none remain; a failed one changes nothing. -/
theorem applyPrefetch_batch {result : Except LoadError LogChunk} {o : LoadOutcome}
    (h : w.applyPrefetch result = .ok (w', o)) :
    (∀ e, result = .error e → w' = w) ∧
      ∀ chunk, result = .ok chunk → o = .applied ∧
        (∀ lo, (chunk.lines.filter (·.number < w.loadedStart)).head? = some lo →
          w'.batchSize = min (w.batchSize * 2) w.config.maxBatch ∧
            w'.moreAbove = decide (lo.number > 1)) ∧
        (chunk.lines.filter (·.number < w.loadedStart) = [] →
          w'.batchSize = w.batchSize ∧ w'.moreAbove = false) := by
  rcases applyPrefetch_eq h with ⟨e, rfl, -, rfl⟩ | ⟨chunk, rfl, rfl, hstage⟩
  · exact ⟨fun _ _ => rfl, fun _ h => by cases h⟩
  refine ⟨fun _ h => (by cases h), fun chunk' h => ?_⟩
  cases h
  rcases hstage with ⟨hnil, rfl⟩ | ⟨lo, hi, w₁, hlo, -, rfl, hcommit⟩
  · refine ⟨rfl, fun lo hlo => ?_, fun _ => ⟨rfl, rfl⟩⟩
    rw [hnil] at hlo
    cases hlo
  · -- staging doubles the batch; a splice at once keeps the batch and the mark
    have hw' : w'.batchSize = min (w.batchSize * 2) w.config.maxBatch ∧
        w'.moreAbove = decide (lo.number > 1) := by
      rcases hcommit with ⟨-, b, hc⟩ | ⟨-, rfl⟩
      · rw [(commitPrefetch_batch hc).1, (commitPrefetch_batch hc).2]
        exact ⟨rfl, rfl⟩
      · exact ⟨rfl, rfl⟩
    refine ⟨rfl, fun lo' hlo' => ?_, fun hnil => ?_⟩
    · rw [hlo] at hlo'
      cases hlo'
      exact hw'
    · rw [hnil] at hlo
      cases hlo

theorem applyPrimary_batchSize {ticket : LoadTicket} {result : Except LoadError LogChunk}
    {o : LoadOutcome} (h : w.applyPrimary ticket result = .ok (w', o)) :
    w'.batchSize = w.batchSize := by
  rcases applyPrimary_cases h with ⟨e, -, rfl⟩ | ⟨chunk, rfl, hne⟩
  · rfl
  · obtain ⟨-, streamed, buffer, newer, -, ⟨-, rfl⟩ | ⟨lo, hi, d, s, -, -, rfl, -⟩⟩ :=
      applyPrimary_applied rfl hne h <;> rfl

/-- A result handed back doubles the batch, up to its cap, exactly when it stages
lines, and otherwise keeps it. -/
theorem complete_batchSize {ticket : LoadTicket} {result : Except LoadError LogChunk}
    {o : LoadOutcome} (h : w.complete ticket result = .ok (w', o)) :
    w'.batchSize = if w.stagesLines (.complete ticket result) then
      min (w.batchSize * 2) w.config.maxBatch else w.batchSize := by
  rcases complete_eq h with ⟨hstale, hw, -⟩ | ⟨hgen, htask, ⟨hkind, hp⟩ | ⟨hkind, hp⟩⟩
  · -- a stale ticket stages nothing
    have hnot : w.stagesLines (.complete ticket result) = false := by
      cases result with
      | error e => rfl
      | ok chunk =>
        rcases hstale with hg | ht
        · simp [stagesLines, hg]
        · simp [stagesLines, ht]
    rw [hnot, hw]
    rfl
  · obtain ⟨herr, hok⟩ := applyPrefetch_batch hp
    cases result with
    | error e =>
      rw [herr e rfl]
      rfl
    | ok chunk =>
      obtain ⟨-, hstaged, hempty⟩ := hok chunk rfl
      -- the prefetch sees `w` but for the load in flight, so the same lines stage
      have hdoubled : ∀ lo, (chunk.lines.filter (·.number < w.loadedStart)).head? = some lo →
          w'.batchSize = min (w.batchSize * 2) w.config.maxBatch := fun lo hlo => (hstaged lo hlo).1
      have hkept : chunk.lines.filter (·.number < w.loadedStart) = [] →
          w'.batchSize = w.batchSize := fun hnil => (hempty hnil).1
      cases hf : chunk.lines.filter (·.number < w.loadedStart) with
      | nil =>
        have hnot : w.stagesLines (.complete ticket (.ok chunk)) = false := by
          simp [stagesLines, hf]
        rw [hnot, hkept hf]
        rfl
      | cons lo rest =>
        have hyes : w.stagesLines (.complete ticket (.ok chunk)) = true := by
          simp [stagesLines, hf, hkind, hgen, htask]
        rw [hyes, hdoubled lo (by rw [hf]; rfl)]
        rfl
  · have hnot : w.stagesLines (.complete ticket result) = false := by
      cases result with
      | error e => rfl
      | ok chunk => simp [stagesLines, hkind]
    rw [hnot, applyPrimary_batchSize hp]
    rfl

/-- The batch after one operation: the first batch after one that brings it back,
doubled up to its cap after a result that stages lines, and kept otherwise. -/
theorem perform_batchSize {op : WindowOp} {issued : Option LoadTicket}
    (h : w.perform op = .ok (w', issued)) :
    w'.batchSize = if op.restoresBatch issued then w.config.initialBatch
      else if w.stagesLines op then min (w.batchSize * 2) w.config.maxBatch else w.batchSize := by
  have hop := perform_eq_ok h
  cases op with
  | openTask task =>
    obtain ⟨rfl, rfl⟩ := hop
    rfl
  | reload =>
    cases htask : w.task with
    | none =>
      rw [reload_of_none htask] at hop
      cases hop
      rfl
    | some task =>
      rw [reload_of_task htask] at hop
      cases hop
      rfl
  | close =>
    obtain ⟨rfl, rfl⟩ := hop
    rfl
  | loadRange first last =>
    rcases hop with hl | ⟨-, rfl, rfl⟩
    · rcases loadRange_eq_ok hl with hp | ⟨task, -, -, hp⟩ <;> cases hp <;> rfl
    · rfl
  | complete ticket result =>
    obtain ⟨rfl, o, hc⟩ := hop
    rw [complete_batchSize hc]
    rfl
  | append task line =>
    obtain ⟨rfl, b, ha⟩ := hop
    rcases appendStreamed_eq ha with ⟨-, rfl⟩ | ⟨-, -, first, w₁, -, rfl, ⟨-, rfl⟩ | ⟨-, r, hf⟩⟩
    · rfl
    · rfl
    · rw [flush_batchSize hf]
      rfl
  | flush =>
    obtain ⟨rfl, r, hf⟩ := hop
    rw [flush_batchSize hf]
    rfl
  | prefetch position height =>
    rw [prefetchAbove_batchSize hop]
    rfl
  | commit =>
    obtain ⟨rfl, b, hc⟩ := hop
    rw [(commitPrefetch_batch hc).1]
    rfl
  | onScroll =>
    obtain ⟨w₁, hp, ⟨-, -, b, hc⟩ | ⟨-, rfl⟩⟩ := onScroll_eq hop
    · rw [(commitPrefetch_batch hc).1, prefetchAbove_batchSize hp]
      rfl
    · rw [prefetchAbove_batchSize hp]
      rfl
  | setRows _ | scroll _ | toTop | toBottom =>
    obtain ⟨rfl, sc, v, rfl⟩ := hop
    rfl

/-! ### The batch along a run -/

/-- A window with settings `c` whose batch is the first one doubled `k` times, up
to its cap. -/
def BatchDoubled (c : WindowConfig) (acc : Window × Nat) : Prop :=
  acc.1.config = c ∧ acc.1.batchSize = min (c.initialBatch * Nat.pow 2 acc.2) c.maxBatch

/-- A replayed operation keeps the batch the first one doubled once per result
that staged lines since it was last brought back. -/
theorem BatchDoubled.replay {c : WindowConfig} (hle : c.initialBatch ≤ c.maxBatch)
    {acc : Window × Nat} (hd : BatchDoubled c acc) {op : WindowOp} {issued : Option LoadTicket}
    (h : acc.1.perform op = .ok (w', issued)) :
    batchReplay acc op = (w', if op.restoresBatch issued then 0
      else if acc.1.stagesLines op then acc.2 + 1 else acc.2) ∧
      BatchDoubled c (batchReplay acc op) := by
  obtain ⟨hconfig, hbatch⟩ := hd
  have hreplay : batchReplay acc op = (w', if op.restoresBatch issued then 0
      else if acc.1.stagesLines op then acc.2 + 1 else acc.2) := by
    simp only [batchReplay, h]
  refine ⟨hreplay, ?_⟩
  rw [hreplay]
  refine ⟨(perform_config h).trans hconfig, ?_⟩
  rw [perform_batchSize h, hconfig]
  dsimp only
  split
  · -- the first batch, doubled no times
    show c.initialBatch = min (c.initialBatch * 1) c.maxBatch
    omega
  · split
    · -- `min (min a M * 2) M = min (a * 2) M`
      rw [hbatch, show Nat.pow 2 (acc.2 + 1) = Nat.pow 2 acc.2 * 2 from rfl, ← Nat.mul_assoc]
      omega
    · exact hbatch

/-- Along a run, the replay follows the windows and keeps the batch the first one
doubled once per result that staged lines since it was last brought back. -/
theorem replay_of_run {caller : Caller} {c : WindowConfig} (hle : c.initialBatch ≤ c.maxBatch)
    {s₀ s : Session} {ops : List WindowOp} (h : Session.Run caller s₀ ops s)
    {acc : Window × Nat} (hacc : acc.1 = s₀.window) (hd : BatchDoubled c acc) :
    (ops.foldl batchReplay acc).1 = s.window ∧ BatchDoubled c (ops.foldl batchReplay acc) := by
  induction h with
  | nil => exact ⟨hacc, hd⟩
  | snoc _ hstep ih =>
    obtain ⟨hwin, hdoubled⟩ := ih
    cases hstep with
    | mk _ hperf =>
      rw [List.foldl_append, List.foldl_cons, List.foldl_nil]
      dsimp only at hwin
      rw [← hwin] at hperf
      obtain ⟨hreplay, hd'⟩ := hdoubled.replay hle hperf
      exact ⟨by rw [hreplay], hd'⟩

end Window

namespace Session

/-- Along every run, a prefetch asks for the batch right above the loaded range, and
the batch is the first one doubled per staging since it was last brought back. -/
theorem prefetch_ranges_and_batch_growth {c : WindowConfig} (hc : c.check = none)
    {caller : Caller} {ops : List WindowOp} {s : Session} (h : Run caller (start c) ops s) :
    (∀ position height w' t, s.window.prefetchAbove position height = (w', some t) →
      s.window.AsksAbove t) ∧
    (∀ w' t, s.window.onScroll = .ok (w', some t) → s.window.AsksAbove t) ∧
    (∀ t chunk w' o, t.generation = s.window.generation → s.window.task = some t.task →
      t.kind = .prefetch → s.window.complete t (.ok chunk) = .ok (w', o) →
      o = .applied ∧
        (∀ lo, (chunk.lines.filter (·.number < s.window.loadedStart)).head? = some lo →
          w'.batchSize = min (s.window.batchSize * 2) c.maxBatch ∧
            w'.moreAbove = decide (lo.number > 1)) ∧
        (chunk.lines.filter (·.number < s.window.loadedStart) = [] →
          w'.batchSize = s.window.batchSize ∧ w'.moreAbove = false)) ∧
    (∀ op w' issued, s.window.perform op = .ok (w', issued) → op.restoresBatch issued = true →
      w'.batchSize = c.initialBatch) ∧
    s.window.batchSize =
      min (c.initialBatch * Nat.pow 2 (Window.stagingsSince (Window.new c) ops)) c.maxBatch := by
  obtain ⟨hfirst, hle, -, -, -⟩ := WindowConfig.sizes_of_check hc
  -- the replay starts from the fresh window, with its first batch doubled no times
  have hd₀ : Window.BatchDoubled c (Window.new c, 0) :=
    ⟨rfl, by show c.initialBatch = min (c.initialBatch * 1) c.maxBatch; omega⟩
  obtain ⟨hwin, hconfig, hbatch⟩ := Window.replay_of_run hle h
    (show (Window.new c, 0).1 = (start c).window from rfl) hd₀
  rw [hwin] at hconfig hbatch
  -- the batch never falls below the first one, so a prefetch asks for a line
  have hpos : 1 ≤ s.window.batchSize := by
    have hpow : 1 ≤ Nat.pow 2 (List.foldl Window.batchReplay (Window.new c, 0) ops).2 :=
      Nat.one_le_two_pow
    have hgrown : c.initialBatch ≤ c.initialBatch * Nat.pow 2 (List.foldl Window.batchReplay
        (Window.new c, 0) ops).2 := Nat.le_mul_of_pos_right _ hpow
    omega
  refine ⟨fun _ _ _ _ hp => Window.prefetchAbove_asksAbove hpos hp,
    fun _ _ hs => Window.onScroll_asksAbove hpos hs, fun t chunk w' o hgen htask hkind hcomp => ?_,
    fun op w' issued hperf hrestore => ?_, hbatch⟩
  · rcases Window.complete_current hgen htask hcomp with ⟨-, hp⟩ | ⟨hnot, -⟩
    · obtain ⟨-, hok⟩ := Window.applyPrefetch_batch hp
      rw [← hconfig]
      exact hok chunk rfl
    · exact absurd hkind hnot
  · rw [Window.perform_batchSize hperf, if_pos hrestore, hconfig]

/-- Opening a task and taking its tail: the batch is still the first one, and no
prefetch result staged lines. -/
theorem prefetch_ranges_and_batch_growth_after_open :
    ({} : WindowConfig).check = none ∧
      ∃ s, Run Caller.wire (start {})
        [.openTask 7, .complete ⟨1, 7, .tail, 0, 0⟩ (.ok ⟨[LogLine.numbered 1], 1⟩)] s ∧
        s.window.batchSize = min (100 * Nat.pow 2 0) 500 := by
  have hc : ({} : WindowConfig).check = none := by decide
  have hrun := ((Run.nil : Run Caller.wire (start {}) [] _).perform (.openTask 7) trivial
    rfl).perform (.complete ⟨1, 7, .tail, 0, 0⟩ (.ok ⟨[LogLine.numbered 1], 1⟩))
      ⟨by decide, .inr ⟨["line 1"], 1, _, rfl, rfl⟩⟩ rfl
  obtain ⟨-, -, -, -, hbatch⟩ := prefetch_ranges_and_batch_growth hc hrun
  exact ⟨hc, _, hrun, hbatch⟩

end Session

end TaskConsole
