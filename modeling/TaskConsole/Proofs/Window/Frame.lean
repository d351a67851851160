import TaskConsole.Proofs.Window.Run
import TaskConsole.Proofs.LineMap
import TaskConsole.Proofs.Chunk

/-! What each window operation changes, one inversion lemma per function, so that no
later proof unfolds a window operation. -/

namespace TaskConsole

namespace Window

variable {w w' : Window}

theorem scrollToBottom_eq (h : w.scrollToBottom = .ok w') : ∃ s, w' = { w with scroll := s } := by
  obtain ⟨m, -, h⟩ := checked_bind_eq_ok h
  exact ⟨m, (checked_pure_eq_ok h).symm⟩

theorem clampScroll_eq (h : w.clampScroll = .ok w') : ∃ s, w' = { w with scroll := s } := by
  obtain ⟨m, -, h⟩ := checked_bind_eq_ok h
  exact ⟨min w.scroll m, (checked_pure_eq_ok h).symm⟩

theorem scrollLines_eq {delta : Int} (h : w.scrollLines delta = .ok w') :
    ∃ s, w' = { w with scroll := s } := by
  obtain ⟨units, -, h⟩ := checked_bind_eq_ok h
  split at h
  · exact ⟨_, (checked_pure_eq_ok h).symm⟩
  · obtain ⟨target, -, h⟩ := checked_bind_eq_ok h
    obtain ⟨m, -, h⟩ := checked_bind_eq_ok h
    exact ⟨_, (checked_pure_eq_ok h).symm⟩

theorem setViewportRows_eq {rows : Nat} (h : w.setViewportRows rows = .ok w') :
    ∃ s v, w' = { w with scroll := s, viewportHeight := v } := by
  obtain ⟨follow, -, h⟩ := checked_bind_eq_ok h
  obtain ⟨height, -, h⟩ := checked_bind_eq_ok h
  split at h
  · obtain ⟨s, rfl⟩ := scrollToBottom_eq h
    exact ⟨s, height, rfl⟩
  · obtain ⟨s, rfl⟩ := clampScroll_eq h
    exact ⟨s, height, rfl⟩

theorem pruneStep_eq {trim : Trim} (h : w.pruneStep trim = .ok w') :
    ∃ d s, w' = { w with display := d, scroll := s } ∧
      List.Sublist d.lines w.display.lines ∧ d.size = w.display.size - 1 := by
  obtain ⟨reach, -, h⟩ := checked_bind_eq_ok h
  dsimp only at h
  split at h
  · exact ⟨_, _, (checked_pure_eq_ok h).symm, LineMap.dropFirst_sublist _,
      LineMap.size_dropFirst _⟩
  · exact ⟨_, w.scroll, (checked_pure_eq_ok h).symm, LineMap.dropLast_sublist _,
      LineMap.size_dropLast _⟩

/-- Pruning with enough fuel stops at the bound, dropping one line a step. -/
theorem pruneWith_eq {trim : Trim} {fuel count count' : Nat} {v v' : Window}
    (h : pruneWith trim fuel v count = .ok (v', count'))
    (hfuel : v.display.size ≤ fuel + v.config.maxDisplayLines) :
    ∃ d s, v' = { v with display := d, scroll := s } ∧
      List.Sublist d.lines v.display.lines ∧
      d.size = min v.display.size v.config.maxDisplayLines := by
  induction fuel generalizing v count with
  | zero =>
    cases h
    exact ⟨_, _, rfl, List.Sublist.refl _, by omega⟩
  | succ fuel ih =>
    simp only [pruneWith] at h
    split at h
    · rename_i hover
      obtain ⟨w₁, h₁, h⟩ := checked_bind_eq_ok h
      obtain ⟨d₁, s₁, rfl, hsub₁, hsize₁⟩ := pruneStep_eq h₁
      obtain ⟨d, s, rfl, hsub, hsize⟩ := ih h (by simp only at hsize₁ ⊢; omega)
      refine ⟨d, s, rfl, hsub.trans hsub₁, ?_⟩
      simp only at hsize hsize₁
      omega
    · cases h
      exact ⟨_, _, rfl, List.Sublist.refl _, by omega⟩

/-- Pruning keeps a sublist of the display, of exactly the bounded size. -/
theorem prune_eq {trim : Trim} {count : Nat} (h : w.prune trim = .ok (w', count)) :
    ∃ d s, w' = { w with display := d, scroll := s } ∧
      List.Sublist d.lines w.display.lines ∧
      d.size = min w.display.size w.config.maxDisplayLines :=
  pruneWith_eq h (by omega)

theorem openTask_eq (task : Nat) :
    w.openTask task =
      ({ w.reset with
          task := some task
          state := .loading
          inFlight := some ⟨w.generation + 1, task, .tail, 0, 0⟩ },
        ⟨w.generation + 1, task, .tail, 0, 0⟩) := rfl

theorem reload_of_task {task : Nat} (h : w.task = some task) :
    w.reload = ((w.openTask task).1, some (w.openTask task).2) := by
  unfold reload
  rw [h]

theorem reload_of_none (h : w.task = none) : w.reload = (w, none) := by
  unfold reload
  rw [h]

/-- A range jump either is dropped and changes nothing, or moves the window to a
new generation with the range in flight. -/
theorem loadRange_eq_ok {first last : Nat} {p : Window × Option LoadTicket}
    (h : w.loadRange first last = .ok p) :
    p = (w, none) ∨
      ∃ task, w.task = some task ∧ w.inFlight.any (fun t => t.kind != .prefetch) = false ∧
        p = ({ w with
            generation := w.generation + 1
            pending := none
            batchSize := w.config.initialBatch
            moreAbove := false
            inFlight := some ⟨w.generation + 1, task, .range, first, last⟩ },
          some ⟨w.generation + 1, task, .range, first, last⟩) := by
  unfold loadRange at h
  split at h
  · cases h
  · split at h
    · cases h
      exact .inl rfl
    · rename_i task htask
      split at h
      · cases h
        exact .inl rfl
      · rename_i hkind
        cases h
        exact .inr ⟨task, htask, by simpa using hkind, rfl⟩

/-- A range jump that hands out no ticket changes nothing. -/
theorem loadRange_dropped {first last : Nat} (h : w.loadRange first last = .ok (w', none)) :
    w' = w := by
  rcases loadRange_eq_ok h with h' | ⟨task, -, -, h'⟩
  · cases h'
    rfl
  · cases h'

/-- A range is refused exactly when it starts at 0 or ends before it starts. -/
theorem loadRange_eq_error {first last : Nat} {e : LoadError} :
    w.loadRange first last = .error e ↔ (first = 0 ∨ last < first) ∧ e = .invalidRange first last := by
  unfold loadRange
  by_cases hbad : first < 1 ∨ last < first
  · rw [if_pos hbad]
    constructor
    · intro h
      cases h
      exact ⟨by omega, rfl⟩
    · rintro ⟨-, rfl⟩
      rfl
  · rw [if_neg hbad]
    constructor
    · intro h
      split at h
      · cases h
      · split at h <;> cases h
    · rintro ⟨hbad', -⟩
      omega

/-- A prefetch is issued only while lines are shown with more above, nothing is
in flight or staged, and the view is near the top; it asks for the batch right
above the loaded range. -/
theorem prefetchAbove_eq {position height : Nat} {t? : Option LoadTicket}
    (h : w.prefetchAbove position height = (w', t?)) :
    (t? = none ∧ w' = w) ∨
      ∃ task loaded, w.task = some task ∧ w.loaded = some loaded ∧ w.state = .lines ∧
        w.moreAbove = true ∧ w.inFlight = none ∧ w.pending = none ∧ 2 ≤ loaded.first ∧
        t? = some ⟨w.generation, task, .prefetch,
          max 1 (loaded.first - 1 - (w.batchSize - 1)), loaded.first - 1⟩ ∧
        w' = { w with inFlight := t? } := by
  unfold prefetchAbove at h
  split at h
  · rename_i task loaded htask hloaded
    split at h
    · cases h
      exact .inl ⟨rfl, rfl⟩
    · rename_i hgate
      split at h
      · cases h
        exact .inl ⟨rfl, rfl⟩
      · split at h
        · cases h
          exact .inl ⟨rfl, rfl⟩
        · rename_i hfirst
          cases h
          simp only [ne_eq, Bool.not_eq_eq_eq_not, Bool.not_true, isLoading, not_or,
            Decidable.not_not, Bool.not_eq_false, Bool.not_eq_true, Option.isSome_eq_false_iff,
            Option.isNone_iff_eq_none] at hgate
          obtain ⟨hstate, hmore, hflight, hpending⟩ := hgate
          exact .inr ⟨task, loaded, htask, hloaded, hstate, hmore, hflight, hpending,
            by omega, rfl, rfl⟩
  · cases h
    exact .inl ⟨rfl, rfl⟩

theorem prefetchAbove_dropped {position height : Nat}
    (h : w.prefetchAbove position height = (w', none)) : w' = w := by
  rcases prefetchAbove_eq h with ⟨-, rfl⟩ | ⟨task, loaded, -, -, -, -, -, -, -, hnone, -⟩
  · rfl
  · cases hnone

/-- Committing splices the staged lines in, moves the loaded range up to them,
and lets the bottom give way. -/
theorem commitPrefetch_eq {b : Bool} (h : w.commitPrefetch = .ok (w', b)) :
    (w.pending = none ∧ w' = w ∧ b = false) ∨
      ∃ staged d s, w.pending = some staged ∧ b = true ∧
        w' = { w with
          pending := none
          display := d
          scroll := s
          loaded := w.loaded.map fun r => { r with first := min r.first staged.range.first } } ∧
        List.Sublist d.lines (w.display.insertAll staged.lines).lines ∧
        d.size = min (w.display.insertAll staged.lines).size w.config.maxDisplayLines := by
  unfold commitPrefetch at h
  split at h
  · rename_i hpending
    cases h
    exact .inl ⟨hpending, rfl, rfl⟩
  · rename_i staged hpending
    obtain ⟨shift, -, h⟩ := checked_bind_eq_ok h
    obtain ⟨scroll, -, h⟩ := checked_bind_eq_ok h
    obtain ⟨⟨w₁, count⟩, hprune, h⟩ := checked_bind_eq_ok h
    cases h
    obtain ⟨d, s, rfl, hsub, hsize⟩ := prune_eq hprune
    exact .inr ⟨staged, d, s, hpending, rfl, rfl, hsub, hsize⟩

theorem mem_insertByNumber {l y : LogLine} {xs : List LogLine} :
    y ∈ insertByNumber l xs ↔ y = l ∨ y ∈ xs := by
  induction xs with
  | nil => simp [insertByNumber]
  | cons x xs ih =>
    simp only [insertByNumber]
    split
    · simp only [List.mem_cons, ih]
      exact or_left_comm
    · simp

theorem mem_sortedBatch {l : LogLine} {ls : List LogLine} : l ∈ sortedBatch ls ↔ l ∈ ls := by
  -- the sorted lines so far and the lines still to insert hold the same lines
  suffices h : ∀ sorted : List LogLine,
      l ∈ ls.foldl (fun sorted l => insertByNumber l sorted) sorted ↔ l ∈ sorted ∨ l ∈ ls by
    simpa [sortedBatch] using h []
  induction ls with
  | nil => simp
  | cons x xs ih =>
    intro sorted
    rw [List.foldl_cons, ih, mem_insertByNumber, List.mem_cons]
    constructor
    · rintro ((rfl | h) | h)
      · exact .inr (.inl rfl)
      · exact .inl h
      · exact .inr (.inr h)
    · rintro (h | rfl | h)
      · exact .inl (.inr h)
      · exact .inl (.inl rfl)
      · exact .inr h

theorem sortedBatch_ne_nil {ls : List LogLine} (h : ls ≠ []) : sortedBatch ls ≠ [] :=
  List.ne_nil_of_mem (mem_sortedBatch.mpr (List.head_mem h))

/-- A flush moves the whole buffer into the display, sorted, and prunes. -/
theorem flush_eq {r : FlushReport} (h : w.flush = .ok (w', r)) :
    (w.buffer = [] ∧ w' = w) ∨
      ∃ d s, w.buffer ≠ [] ∧
        w' = { w with
          buffer := []
          display := d
          scroll := s
          state := if w.state = .empty then .lines else w.state } ∧
        List.Sublist d.lines (w.display.insertAll (sortedBatch w.buffer)).lines ∧
        d.size = min (w.display.insertAll (sortedBatch w.buffer)).size
          w.config.maxDisplayLines := by
  unfold flush at h
  split at h
  · rename_i hempty
    cases h
    exact .inl ⟨List.isEmpty_iff.mp hempty, rfl⟩
  · rename_i hempty
    have hne : w.buffer ≠ [] := by simpa using hempty
    obtain ⟨follow, -, h⟩ := checked_bind_eq_ok h
    dsimp only at h
    -- a window that followed the bottom is scrolled there before and after pruning
    split at h
    · rename_i hfollow
      obtain ⟨w₁, h₁, h⟩ := checked_bind_eq_ok h
      obtain ⟨s₁, rfl⟩ := scrollToBottom_eq h₁
      obtain ⟨⟨w₂, pruned⟩, hprune, h⟩ := checked_bind_eq_ok h
      obtain ⟨d, s₂, rfl, hsub, hsize⟩ := prune_eq hprune
      obtain ⟨w₃, h₃, h⟩ := checked_bind_eq_ok h
      obtain ⟨s, rfl⟩ := scrollToBottom_eq h₃
      cases h
      exact .inr ⟨d, s, hne, rfl, hsub, hsize⟩
    · rename_i hfollow
      obtain ⟨w₁, h₁, h⟩ := checked_bind_eq_ok h
      cases checked_pure_eq_ok h₁
      obtain ⟨⟨w₂, pruned⟩, hprune, h⟩ := checked_bind_eq_ok h
      obtain ⟨d, s₂, rfl, hsub, hsize⟩ := prune_eq hprune
      obtain ⟨w₃, h₃, h⟩ := checked_bind_eq_ok h
      obtain ⟨s, rfl⟩ := clampScroll_eq h₃
      cases h
      exact .inr ⟨d, s, hne, rfl, hsub, hsize⟩

/-- A streamed line is refused unless its task is open and it is numbered; an
accepted line joins the buffer, widens the loaded range to it, and a full buffer
is flushed. -/
theorem appendStreamed_eq {task : Nat} {l : LogLine} {b : Bool}
    (h : w.appendStreamed task l = .ok (w', b)) :
    ((w.task ≠ some task ∨ l.number = 0) ∧ w' = w) ∨
      (w.task = some task ∧ l.number ≠ 0 ∧ ∃ first w₁,
        (w.loaded = none ∧ first = l.number ∨
          ∃ r, w.loaded = some r ∧ first = min r.first l.number) ∧
        w₁ = { w with
          totalLines := max w.totalLines l.number
          loaded := some ⟨first, max w.totalLines l.number⟩
          buffer := w.buffer ++ [l] } ∧
        (w₁.buffer.length < w.config.flushThreshold ∧ w' = w₁ ∨
          w.config.flushThreshold ≤ w₁.buffer.length ∧ ∃ r, w₁.flush = .ok (w', r))) := by
  unfold appendStreamed at h
  split at h
  · rename_i hrefused
    cases h
    exact .inl ⟨hrefused, rfl⟩
  · rename_i haccepted
    simp only [ne_eq, not_or, Decidable.not_not] at haccepted
    obtain ⟨htask, hnumber⟩ := haccepted
    refine .inr ⟨htask, hnumber, ?_⟩
    dsimp only at h
    -- the loaded range reaches down to the line, or starts at it
    cases hl : w.loaded with
    | none =>
      simp only [hl] at h
      refine ⟨l.number, _, .inl ⟨rfl, rfl⟩, rfl, ?_⟩
      split at h
      · rename_i hfull
        obtain ⟨⟨w₂, r⟩, hflush, h⟩ := checked_bind_eq_ok h
        cases h
        exact .inr ⟨hfull, r, hflush⟩
      · rename_i hfull
        cases h
        exact .inl ⟨Nat.lt_of_not_le hfull, rfl⟩
    | some r₀ =>
      simp only [hl] at h
      refine ⟨min r₀.first l.number, _, .inr ⟨r₀, rfl, rfl⟩, rfl, ?_⟩
      split at h
      · rename_i hfull
        obtain ⟨⟨w₂, r⟩, hflush, h⟩ := checked_bind_eq_ok h
        cases h
        exact .inr ⟨hfull, r, hflush⟩
      · rename_i hfull
        cases h
        exact .inl ⟨Nat.lt_of_not_le hfull, rfl⟩

/-- Scroll telemetry asks for a prefetch, then commits what is staged when near
the top. -/
theorem onScroll_eq {t? : Option LoadTicket} (h : w.onScroll = .ok (w', t?)) :
    ∃ w₁, w.prefetchAbove w.scroll w.viewportHeight = (w₁, t?) ∧
      (w.scroll ≤ w₁.config.commitDistance ∧ w₁.pending.isSome = true ∧
          (∃ b, w₁.commitPrefetch = .ok (w', b)) ∨
        ¬(w.scroll ≤ w₁.config.commitDistance ∧ w₁.pending.isSome = true) ∧ w' = w₁) := by
  unfold onScroll at h
  obtain ⟨height, -, h⟩ := checked_bind_eq_ok h
  dsimp only at h
  rcases hp : w.prefetchAbove w.scroll w.viewportHeight with ⟨w₁, t₁⟩
  rw [hp] at h
  dsimp only at h
  split at h
  · rename_i hnear
    obtain ⟨⟨w₂, b⟩, hc, h⟩ := checked_bind_eq_ok h
    cases h
    exact ⟨_, rfl, .inl ⟨hnear.1, hnear.2, b, hc⟩⟩
  · rename_i hnear
    cases h
    exact ⟨_, rfl, .inr ⟨hnear, rfl⟩⟩

/-- What a tail result continues with: the flushed lines past the chunk, the
buffered lines from the chunk's first line on, and the numbers of both past the
chunk. -/
theorem streamedPast_eq {first? last? : Option Nat} {streamed : LineMap}
    {buffer : List LogLine} {newer : List Nat}
    (h : w.streamedPast first? last? = .ok (streamed, buffer, newer)) :
    List.Sublist streamed.lines w.display.lines ∧
      (∀ l, l ∈ streamed.lines ↔ l ∈ w.display.lines ∧ ∀ last ∈ last?, last < l.number) ∧
      List.Sublist buffer w.buffer ∧
      (∀ l, l ∈ buffer ↔ l ∈ w.buffer ∧ ∀ first ∈ first?, first ≤ l.number) ∧
      ∀ n, n ∈ newer ↔
        (n ∈ streamed.numbers ∨ n ∈ buffer.map (·.number)) ∧ ∀ last ∈ last?, last < n := by
  unfold streamedPast at h
  dsimp only at h
  cases last? with
  | none =>
    obtain ⟨past, hpast, h⟩ := checked_bind_eq_ok h
    cases hpast
    cases h
    refine ⟨List.Sublist.refl _, by simp, ?_, ?_, ?_⟩
    · cases first? with
      | none => exact List.Sublist.refl _
      | some first => exact List.filter_sublist
    · intro l
      cases first? <;> simp
    · intro n
      cases first? <;> simp [LineMap.numbers]
  | some last =>
    obtain ⟨bound, hbound, h⟩ := checked_bind_eq_ok h
    obtain ⟨-, rfl⟩ := Word.add_eq_ok_iff.mp hbound
    obtain ⟨past, hpast, h⟩ := checked_bind_eq_ok h
    cases hpast
    cases h
    refine ⟨LineMap.splitAt_snd_sublist _ _, ?_, ?_, ?_, ?_⟩
    · intro l
      rw [LineMap.mem_splitAt_snd_iff]
      exact and_congr_right fun _ => ⟨fun h _ hl => by cases hl; exact h, fun h => h last rfl⟩
    · cases first? with
      | none => exact List.Sublist.refl _
      | some first => exact List.filter_sublist
    · intro l
      cases first? <;> simp
    · intro n
      cases first? <;> simp [LineMap.numbers, or_and_right]

/-- What a primary result keeps of the window: streamed lines of the display,
part of the buffer, and numbers of those. -/
theorem streamed_sources {kind : LoadKind} {first? last? : Option Nat} {streamed : LineMap}
    {buffer : List LogLine} {newer : List Nat}
    (h : kind = .tail ∧ w.streamedPast first? last? = .ok (streamed, buffer, newer) ∨
      kind ≠ .tail ∧ streamed = LineMap.empty ∧ buffer = w.buffer ∧ newer = []) :
    List.Sublist streamed.lines w.display.lines ∧ List.Sublist buffer w.buffer ∧
      ∀ n ∈ newer, n ∈ streamed.numbers ∨ n ∈ buffer.map (·.number) := by
  rcases h with ⟨-, hs⟩ | ⟨-, rfl, rfl, rfl⟩
  · obtain ⟨h1, -, h2, -, h3⟩ := streamedPast_eq hs
    exact ⟨h1, h2, fun n hn => ((h3 n).mp hn).1⟩
  · exact ⟨List.nil_sublist _, List.Sublist.refl _, fun _ hn => nomatch hn⟩

/-- The lines a primary result keeps are a part of its lines. -/
theorem primaryLines_sublist (kind : LoadKind) (lines : List LogLine) :
    List.Sublist (w.primaryLines kind lines) lines := by
  unfold primaryLines
  split
  · exact List.drop_sublist _ _
  · exact List.Sublist.refl _

/-- A failed primary load, or a range that came back empty, clears the window
and shows the error. -/
theorem applyPrimary_failed {ticket : LoadTicket} {result : Except LoadError LogChunk}
    {o : LoadOutcome} (h : w.applyPrimary ticket result = .ok (w', o))
    (hfail : ∀ chunk, result = .ok chunk → chunk.lines.isEmpty = true ∧ ticket.kind = .range) :
    ∃ e, o = .failed e ∧ w' = { w with
      loaded := none
      moreAbove := false
      display := LineMap.empty
      scroll := 0
      state := .error e.message } := by
  unfold applyPrimary at h
  cases result with
  | error e =>
    cases h
    exact ⟨e, rfl, rfl⟩
  | ok chunk =>
    dsimp only at h
    rw [if_pos (hfail chunk rfl)] at h
    cases h
    exact ⟨_, rfl, rfl⟩

/-- A primary result is either taken as a failure, or it is a chunk that is not
an empty range. -/
theorem applyPrimary_cases {ticket : LoadTicket} {result : Except LoadError LogChunk}
    {o : LoadOutcome} (h : w.applyPrimary ticket result = .ok (w', o)) :
    (∃ e, o = .failed e ∧ w' = { w with
      loaded := none
      moreAbove := false
      display := LineMap.empty
      scroll := 0
      state := .error e.message }) ∨
    ∃ chunk, result = .ok chunk ∧ ¬(chunk.lines.isEmpty = true ∧ ticket.kind = .range) := by
  cases result with
  | error e => exact .inl (applyPrimary_failed h fun _ hc => by cases hc)
  | ok chunk =>
    by_cases hne : chunk.lines.isEmpty = true ∧ ticket.kind = .range
    · exact .inl (applyPrimary_failed h fun _ hc => by cases hc; exact hne)
    · exact .inr ⟨chunk, rfl, hne⟩

/-- A primary chunk replaces the display: a tail keeps its last `initialBatch`
lines and the streamed lines past them. The loaded range spans the chunk and
the streamed lines past it, or the window is empty. -/
theorem applyPrimary_applied {ticket : LoadTicket} {chunk : LogChunk} {o : LoadOutcome}
    {lines : List LogLine} (hlines : lines = w.primaryLines ticket.kind chunk.lines)
    (hne : ¬(chunk.lines.isEmpty = true ∧ ticket.kind = .range))
    (h : w.applyPrimary ticket (.ok chunk) = .ok (w', o)) :
    o = .applied ∧ ∃ streamed buffer newer,
      (ticket.kind = .tail ∧ w.streamedPast (lines.head?.map (·.number))
          (lines.getLast?.map (·.number)) = .ok (streamed, buffer, newer) ∨
        ticket.kind ≠ .tail ∧ streamed = LineMap.empty ∧ buffer = w.buffer ∧ newer = []) ∧
      (((lines.head?.map (·.number) <|> newer.min?) = none ∨
            max (lines.getLast?.map (·.number)) newer.max? = none) ∧
          w' = { w with
            totalLines := max w.totalLines chunk.totalLines
            buffer
            display := (LineMap.ofList lines).insertAll streamed.lines
            loaded := none
            moreAbove := false
            scroll := 0
            state := .empty } ∨
        ∃ lo hi d s, (lines.head?.map (·.number) <|> newer.min?) = some lo ∧
          max (lines.getLast?.map (·.number)) newer.max? = some hi ∧
          w' = { w with
            totalLines := max (max w.totalLines chunk.totalLines) hi
            buffer
            loaded := some ⟨lo, hi⟩
            moreAbove := decide (lo > 1)
            state := if ((LineMap.ofList lines).insertAll streamed.lines).size = 0 then .empty
              else .lines
            display := d
            scroll := s } ∧
          List.Sublist d.lines ((LineMap.ofList lines).insertAll streamed.lines).lines ∧
          d.size = min ((LineMap.ofList lines).insertAll streamed.lines).size
            w.config.maxDisplayLines) := by
  subst hlines
  unfold applyPrimary at h
  dsimp only at h
  rw [if_neg hne] at h
  dsimp only at h
  rw [checked_ite_bind] at h
  obtain ⟨⟨streamed, buffer, newer⟩, hpast, h⟩ := checked_bind_eq_ok h
  have hsource : ticket.kind = .tail ∧ w.streamedPast
        ((w.primaryLines ticket.kind chunk.lines).head?.map (·.number))
        ((w.primaryLines ticket.kind chunk.lines).getLast?.map (·.number)) =
        .ok (streamed, buffer, newer) ∨
      ticket.kind ≠ .tail ∧ streamed = LineMap.empty ∧ buffer = w.buffer ∧ newer = [] := by
    split at hpast
    · exact .inl ⟨‹_›, hpast⟩
    · cases hpast
      exact .inr ⟨‹_›, rfl, rfl, rfl⟩
  dsimp only at h
  split at h
  · rename_i lo hi hlo hhi
    -- at the tail the view is scrolled to the bottom before and after pruning
    rw [checked_ite_bind] at h
    obtain ⟨w₁, h₁, h⟩ := checked_bind_eq_ok h
    obtain ⟨⟨w₂, pruned⟩, hprune, h⟩ := checked_bind_eq_ok h
    have hw₁ : ∃ s, w₁ = { w with
        totalLines := max (max w.totalLines chunk.totalLines) hi
        buffer
        loaded := some ⟨lo, hi⟩
        moreAbove := decide (lo > 1)
        state := if ((LineMap.ofList (w.primaryLines ticket.kind chunk.lines)).insertAll
          streamed.lines).size = 0 then .empty else .lines
        display := (LineMap.ofList (w.primaryLines ticket.kind chunk.lines)).insertAll
          streamed.lines
        scroll := s } := by
      split at h₁
      · obtain ⟨s, rfl⟩ := scrollToBottom_eq h₁
        exact ⟨s, rfl⟩
      · exact ⟨0, (checked_pure_eq_ok h₁).symm⟩
    obtain ⟨s₁, rfl⟩ := hw₁
    obtain ⟨d, s₂, rfl, hsub, hsize⟩ := prune_eq hprune
    have hw' : ∃ s, w' = { w with
        totalLines := max (max w.totalLines chunk.totalLines) hi
        buffer
        loaded := some ⟨lo, hi⟩
        moreAbove := decide (lo > 1)
        state := if ((LineMap.ofList (w.primaryLines ticket.kind chunk.lines)).insertAll
          streamed.lines).size = 0 then .empty else .lines
        display := d
        scroll := s } ∧ o = .applied := by
      split at h
      · obtain ⟨w₃, h₃, h⟩ := checked_bind_eq_ok h
        obtain ⟨s, rfl⟩ := scrollToBottom_eq h₃
        cases h
        exact ⟨s, rfl, rfl⟩
      · cases h
        exact ⟨s₂, rfl, rfl⟩
    obtain ⟨s, rfl, rfl⟩ := hw'
    exact ⟨rfl, streamed, buffer, newer, hsource, .inr ⟨lo, hi, d, s, hlo, hhi, rfl, hsub, hsize⟩⟩
  · rename_i hnone
    cases h
    refine ⟨rfl, streamed, buffer, newer, hsource, .inl ⟨?_, rfl⟩⟩
    refine Classical.byContradiction fun hsome => ?_
    rw [not_or] at hsome
    obtain ⟨lo, hlo⟩ := Option.ne_none_iff_exists'.mp hsome.1
    obtain ⟨hi, hhi⟩ := Option.ne_none_iff_exists'.mp hsome.2
    exact hnone lo hi hlo hhi

/-- A prefetch result keeps the lines above the loaded range. The lines kept are
staged, the next batch doubles up to its cap, and the staged lines are spliced
in at once when the view sits near the top. -/
theorem applyPrefetch_eq {result : Except LoadError LogChunk} {o : LoadOutcome}
    (h : w.applyPrefetch result = .ok (w', o)) :
    (∃ e, result = .error e ∧ o = .failed e ∧ w' = w) ∨
      ∃ chunk, result = .ok chunk ∧ o = .applied ∧
        (chunk.lines.filter (·.number < w.loadedStart) = [] ∧
            w' = { w with totalLines := max w.totalLines chunk.totalLines, moreAbove := false } ∨
          ∃ lo hi w₁, (chunk.lines.filter (·.number < w.loadedStart)).head? = some lo ∧
            (chunk.lines.filter (·.number < w.loadedStart)).getLast? = some hi ∧
            w₁ = { w with
              totalLines := max w.totalLines chunk.totalLines
              moreAbove := decide (lo.number > 1)
              batchSize := min (w.batchSize * 2) w.config.maxBatch
              pending := some ⟨chunk.lines.filter (·.number < w.loadedStart),
                ⟨lo.number, hi.number⟩⟩ } ∧
            (w.scroll ≤ w.config.commitDistance ∧ (∃ b, w₁.commitPrefetch = .ok (w', b)) ∨
              ¬w.scroll ≤ w.config.commitDistance ∧ w' = w₁)) := by
  unfold applyPrefetch at h
  cases result with
  | error e =>
    cases h
    exact .inl ⟨e, rfl, rfl, rfl⟩
  | ok chunk =>
    refine .inr ⟨chunk, rfl, ?_⟩
    dsimp only at h
    split at h
    · rename_i lo hi hlo hhi
      obtain ⟨doubled, hdoubled, h⟩ := checked_bind_eq_ok h
      obtain ⟨-, rfl⟩ := Word.mul_eq_ok_iff.mp hdoubled
      split at h
      · rename_i hnear
        obtain ⟨⟨w₂, b⟩, hc, h⟩ := checked_bind_eq_ok h
        cases h
        exact ⟨rfl, .inr ⟨lo, hi, _, hlo, hhi, rfl, .inl ⟨hnear, b, hc⟩⟩⟩
      · rename_i hnear
        cases h
        exact ⟨rfl, .inr ⟨lo, hi, _, hlo, hhi, rfl, .inr ⟨hnear, rfl⟩⟩⟩
    · rename_i hnone
      cases h
      refine ⟨rfl, .inl ⟨?_, rfl⟩⟩
      refine Classical.byContradiction fun hne => ?_
      obtain ⟨lo, hlo⟩ := Option.ne_none_iff_exists'.mp (mt List.head?_eq_none_iff.mp hne)
      obtain ⟨hi, hhi⟩ := Option.ne_none_iff_exists'.mp (mt List.getLast?_eq_none_iff.mp hne)
      exact hnone lo hi hlo hhi

/-- A ticket of another generation or task is stale and changes nothing. -/
theorem complete_of_stale {ticket : LoadTicket} {result : Except LoadError LogChunk}
    (h : ticket.generation ≠ w.generation ∨ w.task ≠ some ticket.task) :
    w.complete ticket result = .ok (w, .stale) := by
  unfold complete
  rw [if_pos h]
  rfl

/-- A current ticket stops the load in flight if it is that load, and its result
is taken as a prefetch or a primary result. -/
theorem complete_current {ticket : LoadTicket} {result : Except LoadError LogChunk}
    {o : LoadOutcome} (hgen : ticket.generation = w.generation)
    (htask : w.task = some ticket.task) (h : w.complete ticket result = .ok (w', o)) :
    ticket.kind = .prefetch ∧
        { w with inFlight := if w.inFlight = some ticket then none else w.inFlight }.applyPrefetch
          result = .ok (w', o) ∨
      ticket.kind ≠ .prefetch ∧
        { w with inFlight := if w.inFlight = some ticket then none else w.inFlight }.applyPrimary
          ticket result = .ok (w', o) := by
  unfold complete at h
  rw [if_neg (by simp [hgen, htask])] at h
  have hw : (if w.inFlight = some ticket then { w with inFlight := none } else w) =
      { w with inFlight := if w.inFlight = some ticket then none else w.inFlight } := by
    split <;> rfl
  dsimp only at h
  rw [hw] at h
  cases hk : ticket.kind with
  | prefetch =>
    rw [hk] at h
    exact .inl ⟨rfl, h⟩
  | tail =>
    rw [hk] at h
    exact .inr ⟨by simp, h⟩
  | range =>
    rw [hk] at h
    exact .inr ⟨by simp, h⟩

/-- A current ticket of a tail or a range has its result taken as a primary
result, by the window without the load in flight if that is the ticket's. -/
theorem complete_primary {ticket : LoadTicket} {result : Except LoadError LogChunk}
    (hgen : ticket.generation = w.generation) (htask : w.task = some ticket.task)
    (hkind : ticket.kind ≠ .prefetch) :
    w.complete ticket result =
      { w with inFlight := if w.inFlight = some ticket then none else w.inFlight }.applyPrimary
        ticket result := by
  unfold complete
  rw [if_neg (by simp [hgen, htask])]
  have hw : (if w.inFlight = some ticket then { w with inFlight := none } else w) =
      { w with inFlight := if w.inFlight = some ticket then none else w.inFlight } := by
    split <;> rfl
  dsimp only
  rw [hw]
  cases hk : ticket.kind with
  | prefetch => exact absurd hk hkind
  | tail => rfl
  | range => rfl

/-- A ticket is stale and changes nothing, or it is current and its result is
taken as a prefetch or a primary result. -/
theorem complete_eq {ticket : LoadTicket} {result : Except LoadError LogChunk} {o : LoadOutcome}
    (h : w.complete ticket result = .ok (w', o)) :
    (ticket.generation ≠ w.generation ∨ w.task ≠ some ticket.task) ∧ w' = w ∧ o = .stale ∨
      ticket.generation = w.generation ∧ w.task = some ticket.task ∧
        (ticket.kind = .prefetch ∧
            { w with inFlight := if w.inFlight = some ticket then none else w.inFlight }.applyPrefetch
              result = .ok (w', o) ∨
          ticket.kind ≠ .prefetch ∧
            { w with inFlight := if w.inFlight = some ticket then none else w.inFlight }.applyPrimary
              ticket result = .ok (w', o)) := by
  by_cases hstale : ticket.generation ≠ w.generation ∨ w.task ≠ some ticket.task
  · rw [complete_of_stale hstale] at h
    cases h
    exact .inl ⟨hstale, rfl, rfl⟩
  · simp only [ne_eq, not_or, Decidable.not_not] at hstale
    exact .inr ⟨hstale.1, hstale.2, complete_current hstale.1 hstale.2 h⟩

/-- What one public operation comes to: the window function it runs, and the
ticket it hands out. -/
theorem perform_eq_ok {op : WindowOp} {issued : Option LoadTicket}
    (h : w.perform op = .ok (w', issued)) :
    match op with
    | .openTask task => w' = (w.openTask task).1 ∧ issued = some (w.openTask task).2
    | .reload => w.reload = (w', issued)
    | .close => w' = w.close ∧ issued = none
    | .loadRange first last => w.loadRange first last = .ok (w', issued) ∨
        (∃ e, w.loadRange first last = .error e) ∧ w' = w ∧ issued = none
    | .complete ticket result => issued = none ∧ ∃ o, w.complete ticket result = .ok (w', o)
    | .append task line => issued = none ∧ ∃ b, w.appendStreamed task line = .ok (w', b)
    | .flush => issued = none ∧ ∃ r, w.flush = .ok (w', r)
    | .prefetch position height => w.prefetchAbove position height = (w', issued)
    | .commit => issued = none ∧ ∃ b, w.commitPrefetch = .ok (w', b)
    | .onScroll => w.onScroll = .ok (w', issued)
    | _ => issued = none ∧ ∃ s v, w' = { w with scroll := s, viewportHeight := v } := by
  cases op with
  | openTask task =>
    cases h
    exact ⟨rfl, rfl⟩
  | reload => exact checked_pure_eq_ok h
  | close =>
    cases h
    exact ⟨rfl, rfl⟩
  | loadRange first last =>
    simp only [perform] at h
    split at h
    · rename_i p hp
      cases h
      exact .inl hp
    · rename_i e he
      cases h
      exact .inr ⟨⟨e, he⟩, rfl, rfl⟩
  | complete ticket result =>
    obtain ⟨⟨w₁, o⟩, hc, h⟩ := checked_bind_eq_ok h
    cases h
    exact ⟨rfl, o, hc⟩
  | append task line =>
    obtain ⟨⟨w₁, b⟩, ha, h⟩ := checked_bind_eq_ok h
    cases h
    exact ⟨rfl, b, ha⟩
  | flush =>
    obtain ⟨⟨w₁, r⟩, hf, h⟩ := checked_bind_eq_ok h
    cases h
    exact ⟨rfl, r, hf⟩
  | prefetch position height => exact checked_pure_eq_ok h
  | commit =>
    obtain ⟨⟨w₁, b⟩, hc, h⟩ := checked_bind_eq_ok h
    cases h
    exact ⟨rfl, b, hc⟩
  | onScroll => exact h
  | setRows rows =>
    obtain ⟨w₁, hr, h⟩ := checked_bind_eq_ok h
    cases h
    obtain ⟨sc, v, rfl⟩ := setViewportRows_eq hr
    exact ⟨rfl, sc, v, rfl⟩
  | scroll delta =>
    obtain ⟨w₁, hr, h⟩ := checked_bind_eq_ok h
    cases h
    obtain ⟨sc, rfl⟩ := scrollLines_eq hr
    exact ⟨rfl, sc, w.viewportHeight, rfl⟩
  | toTop =>
    cases h
    exact ⟨rfl, 0, w.viewportHeight, rfl⟩
  | toBottom =>
    obtain ⟨w₁, hr, h⟩ := checked_bind_eq_ok h
    cases h
    obtain ⟨sc, rfl⟩ := scrollToBottom_eq hr
    exact ⟨rfl, sc, w.viewportHeight, rfl⟩

/-! No operation changes the window's settings. -/

theorem prefetchAbove_config {position height : Nat} {t? : Option LoadTicket}
    (h : w.prefetchAbove position height = (w', t?)) : w'.config = w.config := by
  rcases prefetchAbove_eq h with ⟨-, rfl⟩ | ⟨task, loaded, -, -, -, -, -, -, -, -, rfl⟩ <;> rfl

theorem commitPrefetch_config {b : Bool} (h : w.commitPrefetch = .ok (w', b)) :
    w'.config = w.config := by
  rcases commitPrefetch_eq h with ⟨-, rfl, -⟩ | ⟨staged, d, s, -, -, rfl, -⟩ <;> rfl

theorem flush_config {r : FlushReport} (h : w.flush = .ok (w', r)) : w'.config = w.config := by
  rcases flush_eq h with ⟨-, rfl⟩ | ⟨d, s, -, rfl, -⟩ <;> rfl

theorem appendStreamed_config {task : Nat} {l : LogLine} {b : Bool}
    (h : w.appendStreamed task l = .ok (w', b)) : w'.config = w.config := by
  rcases appendStreamed_eq h with ⟨-, rfl⟩ | ⟨-, -, first, w₁, -, rfl, ⟨-, rfl⟩ | ⟨-, r, hf⟩⟩
  · rfl
  · rfl
  · rw [flush_config hf]

theorem onScroll_config {t? : Option LoadTicket} (h : w.onScroll = .ok (w', t?)) :
    w'.config = w.config := by
  obtain ⟨w₁, hp, ⟨-, -, b, hc⟩ | ⟨-, rfl⟩⟩ := onScroll_eq h
  · rw [commitPrefetch_config hc, prefetchAbove_config hp]
  · exact prefetchAbove_config hp

theorem applyPrimary_config {ticket : LoadTicket} {result : Except LoadError LogChunk}
    {o : LoadOutcome} (h : w.applyPrimary ticket result = .ok (w', o)) : w'.config = w.config := by
  rcases applyPrimary_cases h with ⟨e, -, rfl⟩ | ⟨chunk, rfl, hne⟩
  · rfl
  · obtain ⟨-, streamed, buffer, newer, -, ⟨-, rfl⟩ | ⟨lo, hi, d, s, -, -, rfl, -⟩⟩ :=
      applyPrimary_applied rfl hne h <;> rfl

theorem applyPrefetch_config {result : Except LoadError LogChunk} {o : LoadOutcome}
    (h : w.applyPrefetch result = .ok (w', o)) : w'.config = w.config := by
  rcases applyPrefetch_eq h with
    ⟨e, -, -, rfl⟩ | ⟨chunk, -, -, ⟨-, rfl⟩ | ⟨lo, hi, w₁, -, -, rfl, ⟨-, b, hc⟩ | ⟨-, rfl⟩⟩⟩
  · rfl
  · rfl
  · rw [commitPrefetch_config hc]
  · rfl

theorem complete_config {ticket : LoadTicket} {result : Except LoadError LogChunk}
    {o : LoadOutcome} (h : w.complete ticket result = .ok (w', o)) : w'.config = w.config := by
  rcases complete_eq h with ⟨-, rfl, -⟩ | ⟨-, -, ⟨-, hp⟩ | ⟨-, hp⟩⟩
  · rfl
  · rw [applyPrefetch_config hp]
  · rw [applyPrimary_config hp]

theorem perform_config {op : WindowOp} {issued : Option LoadTicket}
    (h : w.perform op = .ok (w', issued)) : w'.config = w.config := by
  have hop := perform_eq_ok h
  cases op with
  | openTask task => rw [hop.1]; rfl
  | reload =>
    cases htask : w.task with
    | none =>
      rw [reload_of_none htask] at hop
      cases hop
      rfl
    | some task =>
      rw [reload_of_task htask] at hop
      cases hop
      rfl
  | close => rw [hop.1]; rfl
  | loadRange first last =>
    rcases hop with hl | ⟨-, rfl, -⟩
    · rcases loadRange_eq_ok hl with hp | ⟨task, -, -, hp⟩ <;> cases hp <;> rfl
    · rfl
  | complete ticket result =>
    obtain ⟨-, o, hc⟩ := hop
    exact complete_config hc
  | append task line =>
    obtain ⟨-, b, ha⟩ := hop
    exact appendStreamed_config ha
  | flush =>
    obtain ⟨-, r, hf⟩ := hop
    exact flush_config hf
  | prefetch position height => exact prefetchAbove_config hop
  | commit =>
    obtain ⟨-, b, hc⟩ := hop
    exact commitPrefetch_config hc
  | onScroll => exact onScroll_config hop
  | setRows rows | scroll delta | toTop | toBottom =>
    obtain ⟨-, sc, v, rfl⟩ := hop
    rfl

end Window

end TaskConsole
