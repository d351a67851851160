import TaskConsole.Proofs.Window.Contiguity

/-! Lines streamed while the tail loads are held (`Window.AwaitingTail`) and continue
the tail once it is taken, wherever the flushes fell
(`tail_read_keeps_streamed_lines`). -/

namespace TaskConsole

namespace WindowOp

/-- The line an operation streams, if it streams one. -/
def streamedLine? : WindowOp → Option LogLine
  | .append _ line => some line
  | _ => none

end WindowOp

/-- The range a tail read that kept `kept` covers with the streamed numbers past it,
or the streamed numbers alone when it kept nothing. -/
def tailRange (kept : List LogLine) (streamed : List Nat) : Option LineRange :=
  match kept.head?, kept.getLast? with
  | some first, some last =>
    some ⟨first.number, max last.number ((streamed.filter (last.number < ·)).max?.getD 0)⟩
  | _, _ =>
    match streamed.min?, streamed.max? with
    | some lo, some hi => some ⟨lo, hi⟩
    | _, _ => none

theorem max?_eq_of_mem_iff {l l' : List Nat} (h : ∀ n, n ∈ l ↔ n ∈ l') : l.max? = l'.max? := by
  cases hm : l'.max? with
  | none =>
    rw [List.max?_eq_none_iff] at hm ⊢
    subst hm
    exact List.eq_nil_iff_forall_not_mem.mpr fun n hn => by simpa using (h n).mp hn
  | some m =>
    rw [List.max?_eq_some_iff] at hm ⊢
    exact ⟨(h m).mpr hm.1, fun n hn => hm.2 n ((h n).mp hn)⟩

theorem min?_eq_of_mem_iff {l l' : List Nat} (h : ∀ n, n ∈ l ↔ n ∈ l') : l.min? = l'.min? := by
  cases hm : l'.min? with
  | none =>
    rw [List.min?_eq_none_iff] at hm ⊢
    subst hm
    exact List.eq_nil_iff_forall_not_mem.mpr fun n hn => by simpa using (h n).mp hn
  | some m =>
    rw [List.min?_eq_some_iff] at hm ⊢
    exact ⟨(h m).mpr hm.1, fun n hn => hm.2 n ((h n).mp hn)⟩

/-- Lines numbered `a, …, a + m - 1`, for `0 < m`, start at `a` and end at
`a + m - 1`. -/
theorem ends_of_numbers_range' {ls : List LogLine} {a m : Nat}
    (hnum : ls.map (·.number) = List.range' a m) (hm : 0 < m) :
    ls.head?.map (·.number) = some a ∧ ls.getLast?.map (·.number) = some (a + m - 1) := by
  constructor
  · rw [← List.head?_map, hnum, List.head?_range', if_neg (by omega)]
  · rw [← List.getLast?_map, hnum, List.getLast?_range', if_neg (by omega)]

theorem le_max?_getD {l : List Nat} {n : Nat} (h : n ∈ l) : n ≤ l.max?.getD 0 := by
  cases hm : l.max? with
  | none => simp [List.max?_eq_none_iff.mp hm] at h
  | some m => exact (List.max?_eq_some_iff.mp hm).2 n h

namespace Window

variable {w w' : Window}

/-! ### Steps of a display that fits: its bottom, the follow test and the scroll
steps are computed, and a prune of a display within its bound keeps it. -/

theorem maxScroll_of_fits (h : w.display.size * w.config.lineHeight < wordBound) :
    w.maxScroll = .ok (w.display.size * w.config.lineHeight - w.viewportHeight) := by
  simp only [maxScroll, contentHeight, Word.mul_eq_ok h]
  rfl

theorem scrollToBottom_of_fits (h : w.display.size * w.config.lineHeight < wordBound) :
    w.scrollToBottom =
      .ok { w with scroll := w.display.size * w.config.lineHeight - w.viewportHeight } := by
  simp only [scrollToBottom, maxScroll_of_fits h]
  rfl

theorem isFollowing_of_bottom (h : w.display.size * w.config.lineHeight < wordBound)
    (hs : w.maxScroll = .ok w.scroll) : w.isFollowing = .ok true := by
  have hscroll := Except.ok.inj (hs.symm.trans (maxScroll_of_fits h))
  simp only [isFollowing, contentHeight, Word.mul_eq_ok h, hscroll]
  show Except.ok _ = _
  congr 1
  simp only [decide_eq_true_eq]
  omega

theorem pruneWith_of_fits {trim : Trim} {fuel count : Nat}
    (h : w.display.size ≤ w.config.maxDisplayLines) :
    pruneWith trim fuel w count = .ok (w, count) := by
  cases fuel with
  | zero => rfl
  | succ fuel =>
    simp only [pruneWith, if_neg (Nat.not_lt.mpr h)]
    rfl

theorem prune_of_fits {trim : Trim} (h : w.display.size ≤ w.config.maxDisplayLines) :
    w.prune trim = .ok (w, 0) :=
  pruneWith_of_fits h

/-- A flush of a window that follows, whose batch fits, scrolls to the new bottom. -/
theorem flush_following (hne : w.buffer ≠ []) (hfollow : w.isFollowing = .ok true)
    (hfit : (w.display.insertAll (sortedBatch w.buffer)).size ≤ w.config.maxDisplayLines)
    (hword : (w.display.insertAll (sortedBatch w.buffer)).size * w.config.lineHeight <
      wordBound) :
    w.flush = .ok ({ w with
      buffer := []
      display := w.display.insertAll (sortedBatch w.buffer)
      state := if w.state = .empty then .lines else w.state
      scroll := (w.display.insertAll (sortedBatch w.buffer)).size * w.config.lineHeight -
        w.viewportHeight },
      { rendered := (sortedBatch w.buffer).length, pruned := 0, followed := true }) := by
  unfold flush
  rw [if_neg (by simpa using hne), hfollow]
  simp only [bind, Except.bind, if_true]
  rw [scrollToBottom_of_fits hword]
  simp only
  rw [prune_of_fits hfit]
  simp only
  rw [scrollToBottom_of_fits hword]
  rfl

/-- Looking past a chunk's last line succeeds when that line is below the
largest word. -/
theorem streamedPast_ok (w : Window) (first? last? : Option Nat)
    (h : ∀ last ∈ last?, last < wordMax) : ∃ p, w.streamedPast first? last? = .ok p := by
  cases last? with
  | none => exact ⟨_, rfl⟩
  | some last =>
    have hlast : last + 1 < wordBound := by
      have := h last rfl
      unfold wordMax at this
      omega
    simp only [streamedPast, Word.add_eq_ok hlast]
    exact ⟨_, rfl⟩

/-- Looking past a chunk reads only the display and the buffer. -/
@[simp] theorem streamedPast_withTotal (t : Nat) (first? last? : Option Nat) :
    ({ w with totalLines := t } : Window).streamedPast first? last? =
      w.streamedPast first? last? := rfl

/-- A current tail ticket's result is taken as a primary result. -/
theorem complete_tail {ticket : LoadTicket} {result : Except LoadError LogChunk}
    (hgen : ticket.generation = w.generation) (htask : w.task = some ticket.task)
    (hkind : ticket.kind = .tail) :
    w.complete ticket result =
      { w with inFlight := if w.inFlight = some ticket then none else w.inFlight }.applyPrimary
        ticket result :=
  complete_primary hgen htask (by rw [hkind]; decide)

/-- A tail chunk with a range, at the log's end, whose window fits: the window
holds the range and sits at the bottom. -/
theorem applyPrimary_tail_eq {ticket : LoadTicket} {chunk : LogChunk} {lines : List LogLine}
    {streamed : LineMap} {buffer : List LogLine} {newer : List Nat} {lo hi : Nat} {D : LineMap}
    (htail : ticket.kind = .tail) (hlines : lines = w.primaryLines .tail chunk.lines)
    (hpast : w.streamedPast (lines.head?.map (·.number)) (lines.getLast?.map (·.number)) =
      .ok (streamed, buffer, newer))
    (hlo : (lines.head?.map (·.number) <|> newer.min?) = some lo)
    (hhi : max (lines.getLast?.map (·.number)) newer.max? = some hi)
    (hD : D = (LineMap.ofList lines).insertAll streamed.lines)
    (hat : max w.totalLines chunk.totalLines ≤ hi)
    (hfit : D.size ≤ w.config.maxDisplayLines)
    (hword : D.size * w.config.lineHeight < wordBound) :
    w.applyPrimary ticket (.ok chunk) = .ok ({ w with
        totalLines := hi
        buffer
        display := D
        loaded := some ⟨lo, hi⟩
        moreAbove := decide (lo > 1)
        state := if D.size = 0 then .empty else .lines
        scroll := D.size * w.config.lineHeight - w.viewportHeight }, .applied) := by
  subst hlines hD
  have hat' : max (max w.totalLines chunk.totalLines) hi = hi := Nat.max_eq_right hat
  unfold applyPrimary
  simp only [htail, reduceCtorEq, and_false, if_false, if_true, streamedPast_withTotal, hpast,
    bind, Except.bind, hlo, hhi, hat']
  rw [scrollToBottom_of_fits hword]
  simp only
  rw [prune_of_fits hfit]
  simp only
  rw [scrollToBottom_of_fits hword]
  rfl

/-- A tail chunk with no range: the window is empty. -/
theorem applyPrimary_tail_none {ticket : LoadTicket} {chunk : LogChunk} {lines : List LogLine}
    {streamed : LineMap} {buffer : List LogLine} {newer : List Nat}
    (htail : ticket.kind = .tail) (hlines : lines = w.primaryLines .tail chunk.lines)
    (hpast : w.streamedPast (lines.head?.map (·.number)) (lines.getLast?.map (·.number)) =
      .ok (streamed, buffer, newer))
    (hlo : (lines.head?.map (·.number) <|> newer.min?) = none) :
    w.applyPrimary ticket (.ok chunk) = .ok ({ w with
        totalLines := max w.totalLines chunk.totalLines
        buffer
        display := (LineMap.ofList lines).insertAll streamed.lines
        loaded := none
        moreAbove := false
        scroll := 0
        state := .empty }, .applied) := by
  subst hlines
  unfold applyPrimary
  simp only [htail, reduceCtorEq, and_false, if_false, if_true, streamedPast_withTotal, hpast,
    bind, Except.bind, hlo]
  rfl

/-! ### The tail read's lines -/

theorem perm_insertByNumber (l : LogLine) (xs : List LogLine) :
    (insertByNumber l xs).Perm (l :: xs) := by
  induction xs with
  | nil => exact List.Perm.refl _
  | cons x xs ih =>
    simp only [insertByNumber]
    split
    · exact (ih.cons x).trans (List.Perm.swap l x xs)
    · exact List.Perm.refl _

/-- A flush's batch holds the buffer's lines, each once. -/
theorem sortedBatch_perm (ls : List LogLine) : (sortedBatch ls).Perm ls := by
  -- the sorted lines so far and the lines still to insert are the lines at hand
  suffices h : ∀ sorted : List LogLine,
      (ls.foldl (fun sorted l => insertByNumber l sorted) sorted).Perm (sorted ++ ls) by
    simpa [sortedBatch] using h []
  induction ls with
  | nil => intro sorted; simp
  | cons l ls ih =>
    intro sorted
    rw [List.foldl_cons]
    exact (ih _).trans (((perm_insertByNumber l sorted).append_right ls).trans
      List.perm_middle.symm)

/-- A flush's batch adds no more lines to the display than the buffer holds. -/
theorem size_insertAll_sortedBatch_le (m : LineMap) (ls : List LogLine) :
    (m.insertAll (sortedBatch ls)).size ≤ m.size + ls.length := by
  have h := LineMap.size_insertAll_le m (sortedBatch ls)
  rwa [(sortedBatch_perm ls).length_eq] at h

/-- A flushed display holds the numbers of the display and of the buffer. -/
theorem mem_numbers_insertAll_sortedBatch {m : LineMap} {ls : List LogLine} {n : Nat} :
    n ∈ (m.insertAll (sortedBatch ls)).numbers ↔ n ∈ m.numbers ∨ n ∈ ls.map (·.number) := by
  rw [LineMap.mem_numbers_insertAll, ((sortedBatch_perm ls).map _).mem_iff]

theorem primaryLines_tail (lines : List LogLine) :
    w.primaryLines .tail lines = lines.drop (lines.length - w.config.initialBatch) := by
  unfold primaryLines
  split
  · rfl
  · rename_i hshort
    simp only [true_and, gt_iff_lt, Nat.not_lt] at hshort
    rw [Nat.sub_eq_zero_of_le hshort, List.drop_zero]

end Window

namespace LogChunk

/-- The last `k` lines of a tail read of a log of `total` lines are numbered up
to `total`. -/
theorem tail_kept_numbers (k : Nat) {texts : List String} {total : Nat} {chunk : LogChunk}
    (h : ofTexts 0 0 texts total = .ok chunk) (hlen : texts.length ≤ total) :
    (chunk.lines.drop (chunk.lines.length - k)).map (·.number) =
        List.range' (total + 1 - min texts.length k) (min texts.length k) ∧
      chunk.totalLines = total := by
  obtain ⟨start, keep, hw, hnum, htotal⟩ := ofTexts_numbers h
  rcases wireWindow_eq_ok hw with ⟨-, -, rfl, rfl⟩ | ⟨h00, -⟩
  · have hcount : chunk.lines.length = texts.length := by
      simpa using congrArg List.length hnum
    rw [List.map_drop, hnum, List.drop_range', hcount, Nat.min_self]
    refine ⟨?_, htotal⟩
    congr 1 <;> omega
  · exact absurd ⟨rfl, rfl⟩ h00

end LogChunk

namespace Window

variable {w w' : Window} {ticket : LoadTicket} {streamed : List LogLine}

/-! ### Waiting for the tail -/

/-- A window waiting for the tail read `ticket` while the lines `streamed` arrived:
display and buffer hold exactly what was streamed. -/
structure AwaitingTail (ticket : LoadTicket) (streamed : List LogLine) (w : Window) : Prop where
  task : w.task = some ticket.task
  generation : w.generation = ticket.generation
  loading : w.state = .loading
  held : ∀ n, n ∈ w.display.numbers ∨ n ∈ w.buffer.map (·.number) ↔ n ∈ streamed.map (·.number)
  size : w.display.size + w.buffer.length ≤ streamed.length
  total : w.totalLines = 0 ∨ w.totalLines ∈ streamed.map (·.number)

theorem awaitingTail_openTask (w : Window) (task : Nat) :
    AwaitingTail (w.openTask task).2 [] (w.openTask task).1 := by
  rw [openTask_eq]
  exact ⟨rfl, rfl, rfl, fun n => by simp [reset, LineMap.numbers, LineMap.empty], by simp [reset],
    .inl rfl⟩

/-- A flush while the tail is awaited moves the buffer into the display; with
room for every streamed line, the prune keeps them all. -/
theorem AwaitingTail.flush {r : FlushReport} (ha : AwaitingTail ticket streamed w)
    (hfit : streamed.length ≤ w.config.maxDisplayLines) (h : w.flush = .ok (w', r)) :
    AwaitingTail ticket streamed w' := by
  rcases flush_eq h with ⟨-, rfl⟩ | ⟨d, s, -, rfl, hsub, hsize⟩
  · exact ha
  · have hins : (w.display.insertAll (sortedBatch w.buffer)).size ≤ streamed.length :=
      Nat.le_trans (size_insertAll_sortedBatch_le _ _) ha.size
    obtain rfl := LineMap.eq_of_sublist_of_fits hsub hsize (Nat.le_trans hins hfit)
    refine ⟨ha.task, ha.generation, by simp [ha.loading], fun n => ?_, by simpa using hins,
      ha.total⟩
    simp only [List.map_nil, List.not_mem_nil, or_false, mem_numbers_insertAll_sortedBatch]
    exact ha.held n

/-- A line streamed while the tail is awaited joins the buffer, and a full
buffer is flushed. -/
theorem AwaitingTail.appendStreamed {l : LogLine} {b : Bool} (ha : AwaitingTail ticket streamed w)
    (hl : 0 < l.number) (hfit : streamed.length + 1 ≤ w.config.maxDisplayLines)
    (h : w.appendStreamed ticket.task l = .ok (w', b)) :
    AwaitingTail ticket (streamed ++ [l]) w' := by
  rcases appendStreamed_eq h with ⟨hrefused | hrefused, -⟩ | ⟨-, -, first, w₁, -, rfl, hrest⟩
  · exact absurd ha.task hrefused
  · omega
  · have ha₁ : AwaitingTail ticket (streamed ++ [l]) { w with
        totalLines := max w.totalLines l.number
        loaded := some ⟨first, max w.totalLines l.number⟩
        buffer := w.buffer ++ [l] } := by
      refine ⟨ha.task, ha.generation, ha.loading, fun n => ?_, ?_, ?_⟩
      · simp only [List.map_append, List.mem_append, List.map_cons, List.map_nil,
          List.mem_singleton, ← ha.held n, or_assoc]
      · simp only [List.length_append, List.length_singleton]
        have := ha.size
        omega
      · -- the known length is the new line's, or it was known before
        rcases Nat.le_total w.totalLines l.number with hle | hle
        · right
          simp [Nat.max_eq_right hle]
        · rw [Nat.max_eq_left hle]
          rcases ha.total with h0 | hmem
          · exact .inl h0
          · exact .inr (by simp [hmem])
    rcases hrest with ⟨-, rfl⟩ | ⟨-, r, hf⟩
    · exact ha₁
    · exact ha₁.flush (by simpa using hfit) hf

/-- One streamed line or flush while the tail is awaited. -/
theorem AwaitingTail.perform {op : WindowOp} {issued : Option LoadTicket}
    (ha : AwaitingTail ticket streamed w)
    (hop : op = .flush ∨ ∃ l, op = .append ticket.task l ∧ 0 < l.number)
    (hfit : streamed.length + ([op].filterMap WindowOp.streamedLine?).length ≤
      w.config.maxDisplayLines)
    (h : w.perform op = .ok (w', issued)) :
    AwaitingTail ticket (streamed ++ [op].filterMap WindowOp.streamedLine?) w' := by
  rcases hop with rfl | ⟨l, rfl, hl⟩
  · obtain ⟨-, r, hf⟩ := perform_eq_ok h
    have hnone : [WindowOp.flush].filterMap WindowOp.streamedLine? = [] := rfl
    rw [hnone, List.length_nil, Nat.add_zero] at hfit
    rw [hnone, List.append_nil]
    exact ha.flush hfit hf
  · obtain ⟨-, b, happ⟩ := perform_eq_ok h
    exact ha.appendStreamed hl hfit happ

end Window

namespace Session

/-- Streaming and flushing while the tail read `ticket` is awaited keeps every
streamed line held, as long as the display has room for all of them. -/
theorem Run.awaitingTail {caller : Caller} {s₀ s : Session} {ops : List WindowOp}
    {ticket : LoadTicket} (h : Run caller s₀ ops s)
    (h₀ : Window.AwaitingTail ticket [] s₀.window)
    (hops : ∀ op ∈ ops, op = .flush ∨ ∃ l, op = .append ticket.task l ∧ 0 < l.number)
    (hfit : (ops.filterMap WindowOp.streamedLine?).length ≤ s₀.window.config.maxDisplayLines) :
    Window.AwaitingTail ticket (ops.filterMap WindowOp.streamedLine?) s.window ∧
      s.window.config = s₀.window.config := by
  induction h with
  | nil => exact ⟨h₀, rfl⟩
  | @snoc s₁ s₂ ops op hrun hstep ih =>
    rw [List.filterMap_append] at hfit ⊢
    rw [List.length_append] at hfit
    obtain ⟨ha, hconfig⟩ := ih (fun o ho => hops o (List.mem_append_left _ ho)) (by omega)
    refine ⟨?_, hstep.config.trans hconfig⟩
    cases hstep with
    | mk _ hperf =>
      exact ha.perform (hops op (List.mem_append_right _ (List.mem_singleton_self _)))
        (by rw [hconfig]; exact hfit) hperf

end Session

namespace Window

variable {w w' : Window} {ticket : LoadTicket} {streamed : List LogLine}

/-! ### Taking the tail -/

/-- What a look past a chunk sees, by number: the flushed numbers past its last
line and the buffered numbers from its first line on. -/
theorem streamedPast_numbers {first? last? : Option Nat} {sm : LineMap} {buf : List LogLine}
    {newer : List Nat} (h : w.streamedPast first? last? = .ok (sm, buf, newer)) :
    (∀ n, n ∈ sm.numbers ↔ n ∈ w.display.numbers ∧ ∀ l ∈ last?, l < n) ∧
      (∀ n, n ∈ buf.map (·.number) ↔ n ∈ w.buffer.map (·.number) ∧ ∀ f ∈ first?, f ≤ n) ∧
      ∀ n, n ∈ newer ↔ (n ∈ sm.numbers ∨ n ∈ buf.map (·.number)) ∧ ∀ l ∈ last?, l < n := by
  obtain ⟨-, hsm, -, hbuf, hnewer⟩ := streamedPast_eq h
  refine ⟨fun n => ?_, fun n => ?_, hnewer⟩
  · simp only [LineMap.numbers, List.mem_map, hsm]
    constructor
    · rintro ⟨l, ⟨hl, hpast⟩, rfl⟩
      exact ⟨⟨l, hl, rfl⟩, hpast⟩
    · rintro ⟨⟨l, hl, rfl⟩, hpast⟩
      exact ⟨l, ⟨hl, hpast⟩, rfl⟩
  · simp only [List.mem_map, hbuf]
    constructor
    · rintro ⟨l, ⟨hl, hafter⟩, rfl⟩
      exact ⟨⟨l, hl, rfl⟩, hafter⟩
    · rintro ⟨⟨l, hl, rfl⟩, hafter⟩
      exact ⟨l, ⟨hl, hafter⟩, rfl⟩

section Looked

variable {kept : List LogLine} {sm : LineMap} {buf : List LogLine} {newer : List Nat}
  (ha : AwaitingTail ticket streamed w)
  (hpast : w.streamedPast (kept.head?.map (·.number)) (kept.getLast?.map (·.number)) =
    .ok (sm, buf, newer))
  (hbounds : ∀ n, (∀ l ∈ kept.getLast?.map (·.number), l < n) →
    ∀ f ∈ kept.head?.map (·.number), f ≤ n)
include ha hpast hbounds

/-- The tail read continues with the streamed numbers past its last line. -/
theorem AwaitingTail.mem_newer :
    ∀ n, n ∈ newer ↔ n ∈ streamed.map (·.number) ∧ ∀ l ∈ kept.getLast?.map (·.number), l < n := by
  obtain ⟨hsm, hbuf, hnewer⟩ := streamedPast_numbers hpast
  intro n
  rw [hnewer, hsm, hbuf, ← ha.held n]
  constructor
  · rintro ⟨⟨hd, -⟩ | ⟨hb, -⟩, hp⟩
    · exact ⟨.inl hd, hp⟩
    · exact ⟨.inr hb, hp⟩
  · rintro ⟨hd | hb, hp⟩
    · exact ⟨.inl ⟨hd, hp⟩, hp⟩
    · exact ⟨.inr ⟨hb, hbounds n hp⟩, hp⟩

/-- The tail read leaves its kept lines and each streamed number past them held,
flushed or still buffered; a buffered line inside the kept range stays
buffered, over the kept line of its number. -/
theorem AwaitingTail.held_after
    (hinside : ∀ n, (∀ f ∈ kept.head?.map (·.number), f ≤ n) →
      ¬(∀ l ∈ kept.getLast?.map (·.number), l < n) → n ∈ kept.map (·.number)) :
    ∀ n, n ∈ ((LineMap.ofList kept).insertAll sm.lines).numbers ∨ n ∈ buf.map (·.number) ↔
      n ∈ kept.map (·.number) ∨
        n ∈ streamed.map (·.number) ∧ ∀ l ∈ kept.getLast?.map (·.number), l < n := by
  obtain ⟨hsm, hbuf, -⟩ := streamedPast_numbers hpast
  intro n
  have hD : n ∈ ((LineMap.ofList kept).insertAll sm.lines).numbers ↔
      n ∈ kept.map (·.number) ∨ n ∈ sm.numbers := by
    rw [LineMap.mem_numbers_insertAll, LineMap.ofList, LineMap.mem_numbers_insertAll]
    simp [LineMap.numbers, LineMap.empty]
  rw [hD, hsm, hbuf, ← ha.held n]
  constructor
  · rintro ((hk | ⟨hd, hp⟩) | ⟨hb, hf⟩)
    · exact .inl hk
    · exact .inr ⟨.inl hd, hp⟩
    · -- a buffered line past the first kept line is past the last, or inside
      by_cases hp : ∀ l ∈ kept.getLast?.map (·.number), l < n
      · exact .inr ⟨.inr hb, hp⟩
      · exact .inl (hinside n hf hp)
  · rintro (hk | ⟨hd | hb, hp⟩)
    · exact .inl (.inl hk)
    · exact .inl (.inr ⟨hd, hp⟩)
    · exact .inr ⟨hb, hbounds n hp⟩

omit hbounds in
theorem AwaitingTail.size_after :
    ((LineMap.ofList kept).insertAll sm.lines).size + buf.length ≤
      kept.length + streamed.length := by
  obtain ⟨hsub_sm, -, hsub_buf, -, -⟩ := streamedPast_eq hpast
  have h₁ := LineMap.size_insertAll_le (LineMap.ofList kept) sm.lines
  have h₂ := LineMap.size_insertAll_le LineMap.empty kept
  have h₃ := hsub_sm.length_le
  have h₄ := hsub_buf.length_le
  have h₅ := ha.size
  simp only [LineMap.ofList, LineMap.size, LineMap.lines_empty, List.length_nil] at *
  omega

end Looked

/-- A window that took a tail read keeping `kept` after `streamed`: it holds them all,
sits at the bottom and covers `tailRange`. -/
structure TookTail (kept : List LogLine) (streamed : List Nat) (total : Nat) (w : Window) :
    Prop where
  held : ∀ n, n ∈ w.display.numbers ∨ n ∈ w.buffer.map (·.number) ↔
    n ∈ kept.map (·.number) ∨ n ∈ streamed ∧ ∀ l ∈ kept.getLast?.map (·.number), l < n
  room : w.display.size + w.buffer.length ≤ w.config.maxDisplayLines
  bottom : w.maxScroll = .ok w.scroll
  state : w.state = if w.display.size = 0 then .empty else .lines
  loaded : w.loaded = tailRange kept streamed
  total : w.totalLines = max total (((tailRange kept streamed).map (·.last)).getD 0)

/-- A flush after the tail was taken moves what is buffered into the display and
keeps the window at the bottom. -/
theorem TookTail.flush {kept : List LogLine} {nums : List Nat} {total : Nat}
    (ht : TookTail kept nums total w)
    (hheight : w.config.maxDisplayLines * w.config.lineHeight < wordBound) :
    ∃ w' r, w.flush = .ok (w', r) ∧ TookTail kept nums total w' ∧ w'.buffer = [] := by
  by_cases hbuf : w.buffer = []
  · exact ⟨w, {}, by simp only [Window.flush, hbuf, List.isEmpty_nil, if_true]; rfl, ht, hbuf⟩
  · have hsize : (w.display.insertAll (sortedBatch w.buffer)).size ≤ w.config.maxDisplayLines :=
      Nat.le_trans (size_insertAll_sortedBatch_le _ _) ht.room
    have hword : (w.display.insertAll (sortedBatch w.buffer)).size * w.config.lineHeight <
        wordBound :=
      Nat.lt_of_le_of_lt (Nat.mul_le_mul_right _ hsize) hheight
    have hword₀ : w.display.size * w.config.lineHeight < wordBound :=
      Nat.lt_of_le_of_lt (Nat.mul_le_mul_right _ (by have := ht.room; omega)) hheight
    have hpos : (w.display.insertAll (sortedBatch w.buffer)).size ≠ 0 :=
      Nat.pos_iff_ne_zero.mp (LineMap.size_insertAll_pos (sortedBatch_ne_nil hbuf))
    refine ⟨_, _, flush_following hbuf (isFollowing_of_bottom hword₀ ht.bottom) hsize hword,
      ⟨fun n => ?_, by simpa using hsize, maxScroll_of_fits hword, ?_, ht.loaded, ht.total⟩, rfl⟩
    · rw [← ht.held n]
      simp only [List.map_nil, List.not_mem_nil, or_false, mem_numbers_insertAll_sortedBatch]
    · -- the batch is not empty, so the window shows lines
      show (if w.state = .empty then DisplayState.lines else w.state) =
        if (w.display.insertAll (sortedBatch w.buffer)).size = 0 then .empty else .lines
      rw [ht.state, if_neg hpos]
      by_cases h0 : w.display.size = 0 <;> simp [h0]

end Window

namespace Window

variable {w : Window} {ticket : LoadTicket} {streamed : List LogLine}

/-- Taking a tail read whose window runs from `lo` to `hi`, at the log's end,
while every streamed line is held and the display has room for the kept and
the streamed lines. -/
theorem AwaitingTail.tookTail_of_range {chunk : LogChunk} {kept : List LogLine} {sm : LineMap}
    {buf : List LogLine} {newer : List Nat} {total lo hi : Nat}
    (ha : AwaitingTail ticket streamed w) (htail : ticket.kind = .tail)
    (hlines : kept = w.primaryLines .tail chunk.lines)
    (hpast : w.streamedPast (kept.head?.map (·.number)) (kept.getLast?.map (·.number)) =
      .ok (sm, buf, newer))
    (hbounds : ∀ n, (∀ l ∈ kept.getLast?.map (·.number), l < n) →
      ∀ f ∈ kept.head?.map (·.number), f ≤ n)
    (hinside : ∀ n, (∀ f ∈ kept.head?.map (·.number), f ≤ n) →
      ¬(∀ l ∈ kept.getLast?.map (·.number), l < n) → n ∈ kept.map (·.number))
    (hlo : (kept.head?.map (·.number) <|> newer.min?) = some lo)
    (hhi : max (kept.getLast?.map (·.number)) newer.max? = some hi)
    (hat : max w.totalLines chunk.totalLines ≤ hi)
    (hrange : tailRange kept (streamed.map (·.number)) = some ⟨lo, hi⟩) (htotal : total ≤ hi)
    (hfit : kept.length + streamed.length ≤ w.config.maxDisplayLines)
    (hheight : w.config.maxDisplayLines * w.config.lineHeight < wordBound) :
    ∃ w', w.applyPrimary ticket (.ok chunk) = .ok (w', .applied) ∧
      TookTail kept (streamed.map (·.number)) total w' := by
  have hsize := ha.size_after hpast
  have hfitD : ((LineMap.ofList kept).insertAll sm.lines).size ≤ w.config.maxDisplayLines := by
    omega
  have hword : ((LineMap.ofList kept).insertAll sm.lines).size * w.config.lineHeight <
      wordBound :=
    Nat.lt_of_le_of_lt (Nat.mul_le_mul_right _ hfitD) hheight
  refine ⟨_, applyPrimary_tail_eq htail hlines hpast hlo hhi rfl hat hfitD hword,
    ⟨ha.held_after hpast hbounds hinside, by simp only; omega, maxScroll_of_fits hword, rfl,
      hrange.symm, ?_⟩⟩
  show hi = max total (((tailRange kept (streamed.map (·.number))).map (·.last)).getD 0)
  rw [hrange]
  exact (Nat.max_eq_right htotal).symm

/-- Taking a tail read that kept lines: they end at the log's last line, and
the window runs from the first of them to the highest streamed number past it. -/
theorem AwaitingTail.tookTail_kept {texts : List String} {total : Nat} {chunk : LogChunk}
    (ha : AwaitingTail ticket streamed w) (htail : ticket.kind = .tail)
    (hchunk : LogChunk.ofTexts 0 0 texts total = .ok chunk) (hlen : texts.length ≤ total)
    (hne : texts ≠ []) (hbatch : 0 < w.config.initialBatch) (hword : total < wordMax)
    (hfit : min texts.length w.config.initialBatch + streamed.length ≤
      w.config.maxDisplayLines)
    (hheight : w.config.maxDisplayLines * w.config.lineHeight < wordBound) :
    ∃ w', w.applyPrimary ticket (.ok chunk) = .ok (w', .applied) ∧
      TookTail (chunk.lines.drop (chunk.lines.length - w.config.initialBatch))
        (streamed.map (·.number)) total w' := by
  obtain ⟨hnum, htotal⟩ := LogChunk.tail_kept_numbers w.config.initialBatch hchunk hlen
  have hlines : chunk.lines.drop (chunk.lines.length - w.config.initialBatch) =
      w.primaryLines .tail chunk.lines := (primaryLines_tail _).symm
  generalize chunk.lines.drop (chunk.lines.length - w.config.initialBatch) = kept at hnum hlines ⊢
  generalize hm : min texts.length w.config.initialBatch = m at hnum hfit
  have hm0 : 0 < m := by
    have := List.length_pos_iff.mpr hne
    omega
  have hmT : m ≤ total := by omega
  -- the kept lines are numbered `total + 1 - m` to `total`
  have hlen_kept : kept.length = m := by simpa using congrArg List.length hnum
  obtain ⟨hfirst, hlast⟩ := ends_of_numbers_range' hnum hm0
  rw [show total + 1 - m + m - 1 = total by omega] at hlast
  have hbounds : ∀ n, (∀ l ∈ kept.getLast?.map (·.number), l < n) →
      ∀ f ∈ kept.head?.map (·.number), f ≤ n := by
    rw [hfirst, hlast]
    intro n hn f hf
    cases hf
    have := hn total rfl
    omega
  have hinside : ∀ n, (∀ f ∈ kept.head?.map (·.number), f ≤ n) →
      ¬(∀ l ∈ kept.getLast?.map (·.number), l < n) → n ∈ kept.map (·.number) := by
    rw [hfirst, hlast, hnum]
    intro n hf hl
    have := hf _ rfl
    simp only [Option.mem_def, Option.some.injEq, forall_eq', Nat.not_lt] at hl
    rw [List.mem_range'_1]
    omega
  obtain ⟨⟨sm, buf, newer⟩, hpast⟩ := streamedPast_ok w
    (kept.head?.map (·.number)) (kept.getLast?.map (·.number))
    (by rw [hlast]; intro l hl; cases hl; exact hword)
  have hnewer := ha.mem_newer hpast hbounds
  rw [hlast] at hnewer
  -- the window runs up to the highest streamed number past the read, if any
  obtain ⟨hi, hhi_def⟩ : ∃ hi, hi = max total (newer.max?.getD 0) := ⟨_, rfl⟩
  have hhi : max (kept.getLast?.map (·.number)) newer.max? = some hi := by
    rw [hlast, hhi_def]
    cases newer.max? <;> simp
  have hmax : newer.max? = ((streamed.map (·.number)).filter (total < ·)).max? :=
    max?_eq_of_mem_iff fun n => by simp [hnewer n]
  have hrange : tailRange kept (streamed.map (·.number)) = some ⟨total + 1 - m, hi⟩ := by
    obtain ⟨f, hf, hfn⟩ := Option.map_eq_some_iff.mp hfirst
    obtain ⟨l, hl, hln⟩ := Option.map_eq_some_iff.mp hlast
    simp only [tailRange, hf, hl, hfn, hln, hhi_def, hmax]
  have hat : max w.totalLines chunk.totalLines ≤ hi := by
    rw [htotal, hhi_def]
    rcases ha.total with h0 | hmem
    · omega
    · -- a streamed length past the read is a number the window continues with
      by_cases hle : w.totalLines ≤ total
      · omega
      · have := le_max?_getD ((hnewer _).mpr ⟨hmem, fun l hl => by cases hl; omega⟩)
        omega
  exact ha.tookTail_of_range htail hlines hpast hbounds hinside (by rw [hfirst]; rfl) hhi hat
    hrange (by omega) (by omega) hheight

/-- Taking a tail read of an empty log: the window runs over the streamed
numbers, and is empty when nothing was streamed. -/
theorem AwaitingTail.tookTail_empty {total : Nat} {chunk : LogChunk}
    (ha : AwaitingTail ticket streamed w) (htail : ticket.kind = .tail)
    (hchunk : LogChunk.ofTexts 0 0 [] total = .ok chunk) (hzero : total = 0)
    (hfit : streamed.length ≤ w.config.maxDisplayLines)
    (hheight : w.config.maxDisplayLines * w.config.lineHeight < wordBound) :
    ∃ w', w.applyPrimary ticket (.ok chunk) = .ok (w', .applied) ∧
      TookTail (chunk.lines.drop (chunk.lines.length - w.config.initialBatch))
        (streamed.map (·.number)) total w' := by
  obtain ⟨start, keep, -, hnum, htotal⟩ := LogChunk.ofTexts_numbers hchunk
  have hnil : chunk.lines = [] := by simpa using hnum
  have hlines : [] = w.primaryLines .tail chunk.lines := by
    rw [primaryLines_tail, hnil, List.drop_nil]
  rw [hnil, List.drop_nil]
  obtain ⟨⟨sm, buf, newer⟩, hpast⟩ := streamedPast_ok w
    (([] : List LogLine).head?.map (·.number)) (([] : List LogLine).getLast?.map (·.number))
    (fun _ h => by cases h)
  have hbounds : ∀ n, (∀ l ∈ ([] : List LogLine).getLast?.map (·.number), l < n) →
      ∀ f ∈ ([] : List LogLine).head?.map (·.number), f ≤ n :=
    fun _ _ _ hf => by cases hf
  have hinside : ∀ n, (∀ f ∈ ([] : List LogLine).head?.map (·.number), f ≤ n) →
      ¬(∀ l ∈ ([] : List LogLine).getLast?.map (·.number), l < n) →
        n ∈ ([] : List LogLine).map (·.number) :=
    fun _ _ hl => absurd (fun _ h => by cases h) hl
  -- with nothing read, the window continues with every streamed number
  have hnewer : ∀ n, n ∈ streamed.map (·.number) ↔ n ∈ newer := fun n => by
    simp [ha.mem_newer hpast hbounds n]
  have hsize := ha.size_after hpast
  simp only [List.length_nil, Nat.zero_add] at hsize
  cases hmin : newer.min? with
  | none =>
    -- nothing was streamed, and the window is empty
    have hS : streamed = [] := by
      rw [List.min?_eq_none_iff] at hmin
      exact List.eq_nil_iff_forall_not_mem.mpr (by simpa [hmin] using hnewer)
    subst hS
    have hD0 : ((LineMap.ofList []).insertAll sm.lines).size = 0 := by
      simp only [List.length_nil, Nat.le_zero, Nat.add_eq_zero_iff] at hsize
      exact hsize.1
    have hw0 : ((LineMap.ofList []).insertAll sm.lines).size * w.config.lineHeight <
        wordBound := by
      rw [hD0, Nat.zero_mul]
      exact Nat.lt_of_le_of_lt (Nat.zero_le _) hheight
    have htotal0 : w.totalLines = 0 := by simpa using ha.total
    refine ⟨_, applyPrimary_tail_none htail hlines hpast hmin,
      ⟨ha.held_after hpast hbounds hinside, by simp only; omega, ?_, ?_, rfl, ?_⟩⟩
    · show _ = Except.ok 0
      rw [maxScroll_of_fits hw0]
      simp only [hD0, Nat.zero_mul, Nat.zero_sub]
    · show DisplayState.empty = _
      rw [if_pos hD0]
    · show max w.totalLines chunk.totalLines = _
      rw [htotal0, htotal, hzero]
      rfl
  | some lo =>
    obtain ⟨hi, hhi⟩ : ∃ hi, newer.max? = some hi := by
      refine Option.ne_none_iff_exists'.mp fun hnone => ?_
      rw [List.max?_eq_none_iff] at hnone
      simp [hnone] at hmin
    have hrange : tailRange [] (streamed.map (·.number)) = some ⟨lo, hi⟩ := by
      simp only [tailRange, List.head?_nil, List.getLast?_nil, min?_eq_of_mem_iff hnewer, hmin,
        max?_eq_of_mem_iff hnewer, hhi]
    have hat : max w.totalLines chunk.totalLines ≤ hi := by
      rw [htotal, hzero]
      rcases ha.total with h0 | hmem
      · omega
      · have := (List.max?_eq_some_iff.mp hhi).2 _ ((hnewer _).mp hmem)
        omega
    exact ha.tookTail_of_range htail hlines hpast hbounds hinside hmin
      (by simpa using hhi) hat hrange (by omega) (by simpa using hfit) hheight

/-- Once the buffer is flushed, the window's display is empty exactly when
nothing was read or streamed. -/
theorem TookTail.size_eq_zero_iff {kept : List LogLine} {nums : List Nat} {total : Nat}
    (ht : TookTail kept nums total w) (hbuf : w.buffer = []) :
    w.display.size = 0 ↔ kept = [] ∧ nums = [] := by
  have hmem : ∀ n, n ∈ w.display.numbers ↔ n ∈ kept.map (·.number) ∨
      n ∈ nums ∧ ∀ l ∈ kept.getLast?.map (·.number), l < n := by
    intro n
    simpa [hbuf] using ht.held n
  constructor
  · intro h0
    have hnone : ∀ n, n ∉ w.display.numbers := by
      intro n hn
      simp [LineMap.numbers, List.eq_nil_of_length_eq_zero h0] at hn
    have hkept : kept = [] := List.eq_nil_iff_forall_not_mem.mpr fun l hl =>
      hnone l.number ((hmem _).mpr (.inl (List.mem_map_of_mem hl)))
    subst hkept
    exact ⟨rfl, List.eq_nil_iff_forall_not_mem.mpr fun n hn =>
      hnone n ((hmem n).mpr (.inr ⟨hn, fun l hl => by cases hl⟩))⟩
  · rintro ⟨rfl, rfl⟩
    have hnil : w.display.numbers = [] := List.eq_nil_iff_forall_not_mem.mpr fun n hn => by
      simpa using (hmem n).mp hn
    simpa [LineMap.numbers, LineMap.size] using hnil

end Window

namespace Session

/-- No line streamed while a task's tail loads is lost, wherever the flushes fall:
taking the tail and flushing once more shows the kept and the streamed lines. -/
theorem tail_read_keeps_streamed_lines {w : Window} {task : Nat} {caller : Caller}
    {held : List LoadTicket} {ops : List WindowOp} {s : Session} {texts : List String}
    {total : Nat} {chunk : LogChunk} {kept streamed : List LogLine}
    (hbatch : 0 < w.config.initialBatch)
    (hheight : w.config.maxDisplayLines * w.config.lineHeight < wordBound)
    (hops : ∀ op ∈ ops, op = .flush ∨ ∃ l, op = .append task l ∧ 0 < l.number)
    (hrun : Run caller ⟨(w.openTask task).1, held⟩ ops s)
    (hstreamed : streamed = ops.filterMap WindowOp.streamedLine?)
    (hchunk : LogChunk.ofTexts 0 0 texts total = .ok chunk)
    (hlen : texts.length ≤ total) (hempty : texts = [] → total = 0) (hword : total < wordMax)
    (hkept : kept = chunk.lines.drop (chunk.lines.length - w.config.initialBatch))
    (hfit : kept.length + streamed.length ≤ w.config.maxDisplayLines) :
    ∃ w₁ w₂ r, s.window.complete (w.openTask task).2 (.ok chunk) = .ok (w₁, .applied) ∧
      w₁.flush = .ok (w₂, r) ∧
      (∀ n, n ∈ w₂.display.numbers ↔ n ∈ kept.map (·.number) ∨
        n ∈ streamed.map (·.number) ∧ ∀ l ∈ kept.getLast?.map (·.number), l < n) ∧
      w₂.loaded = tailRange kept (streamed.map (·.number)) ∧
      w₂.totalLines = max total ((w₂.loaded.map (·.last)).getD 0) ∧
      w₂.state = (if kept = [] ∧ streamed = [] then .empty else .lines) ∧
      w₂.maxScroll = .ok w₂.scroll ∧ w₂.isFollowing = .ok true := by
  -- while the tail loads, every streamed line is held
  obtain ⟨ha, hconfig⟩ := hrun.awaitingTail (Window.awaitingTail_openTask w task) hops
    (by rw [← hstreamed]; exact Nat.le_trans (Nat.le_add_left _ _) hfit)
  rw [← hstreamed] at ha
  rw [Window.complete_tail ha.generation.symm ha.task rfl]
  -- the tail's result is taken on the window with its load no longer in flight
  obtain ⟨v, hv⟩ : ∃ v : Window, v = { s.window with
      inFlight := if s.window.inFlight = some (w.openTask task).2 then none
        else s.window.inFlight } := ⟨_, rfl⟩
  rw [← hv]
  have ha' : Window.AwaitingTail (w.openTask task).2 streamed v := by
    subst hv
    exact ⟨ha.task, ha.generation, ha.loading, ha.held, ha.size, ha.total⟩
  have hvc : v.config = w.config := by
    subst hv
    exact hconfig
  rw [← hvc] at hbatch hheight hkept hfit
  have hkept_len : kept.length = min texts.length v.config.initialBatch := by
    subst hkept
    simpa using congrArg List.length
      (LogChunk.tail_kept_numbers v.config.initialBatch hchunk hlen).1
  -- the tail read is taken: an empty log, or kept lines ending at the log's end
  obtain ⟨w₁, happly, ht⟩ : ∃ w₁, v.applyPrimary (w.openTask task).2 (.ok chunk) =
      .ok (w₁, .applied) ∧ Window.TookTail kept (streamed.map (·.number)) total w₁ := by
    subst hkept
    by_cases hne : texts = []
    · subst hne
      exact ha'.tookTail_empty rfl hchunk (hempty rfl) (by omega) hheight
    · exact ha'.tookTail_kept rfl hchunk hlen hne hbatch hword (by omega) hheight
  have hconfig₁ : w₁.config = v.config := Window.applyPrimary_config happly
  -- one more flush shows what was buffered and keeps the view at the bottom
  obtain ⟨w₂, r, hflush, ht₂, hbuf₂⟩ := ht.flush (by rw [hconfig₁]; exact hheight)
  have hconfig₂ : w₂.config = v.config := (Window.flush_config hflush).trans hconfig₁
  have hword₂ : w₂.display.size * w₂.config.lineHeight < wordBound := by
    have := ht₂.room
    rw [hconfig₂] at this ⊢
    exact Nat.lt_of_le_of_lt (Nat.mul_le_mul_right _ (by omega)) hheight
  refine ⟨w₁, w₂, r, happly, hflush, fun n => by simpa [hbuf₂] using ht₂.held n, ht₂.loaded,
    by rw [ht₂.loaded]; exact ht₂.total, ?_, ht₂.bottom,
    Window.isFollowing_of_bottom hword₂ ht₂.bottom⟩
  simp only [ht₂.state, ht₂.size_eq_zero_iff hbuf₂, List.map_eq_nil_iff]

/-- Line 4 is streamed and flushed, then lines 3 and 1 are buffered, before the
tail of a two-line log arrives: all of lines 1 to 4 are shown, at the bottom. -/
theorem tail_read_keeps_streamed_lines_out_of_order :
    ∃ s, Run Caller.free ⟨((Window.new {}).openTask 7).1, []⟩
        [.append 7 (LogLine.numbered 4), .flush, .append 7 (LogLine.numbered 3),
          .append 7 (LogLine.numbered 1)] s ∧
      LogChunk.ofTexts 0 0 ["line 1", "line 2"] 2 =
        .ok ⟨[LogLine.numbered 1, LogLine.numbered 2], 2⟩ ∧
      ∃ w₁ w₂ r, s.window.complete ((Window.new {}).openTask 7).2
          (.ok ⟨[LogLine.numbered 1, LogLine.numbered 2], 2⟩) = .ok (w₁, .applied) ∧
        w₁.flush = .ok (w₂, r) ∧
        (∀ n, n ∈ w₂.display.numbers ↔ n ∈ [1, 2] ∨ n ∈ [4, 3, 1] ∧ ∀ l ∈ some 2, l < n) ∧
        w₂.loaded = tailRange [LogLine.numbered 1, LogLine.numbered 2] [4, 3, 1] ∧
        w₂.totalLines = max 2 ((w₂.loaded.map (·.last)).getD 0) ∧
        w₂.state = .lines ∧ w₂.maxScroll = .ok w₂.scroll ∧ w₂.isFollowing = .ok true := by
  have hrun := ((((Run.nil : Run Caller.free ⟨((Window.new {}).openTask 7).1, []⟩ [] _).perform
    (.append 7 (LogLine.numbered 4)) trivial rfl).perform .flush trivial rfl).perform
      (.append 7 (LogLine.numbered 3)) trivial rfl).perform
    (.append 7 (LogLine.numbered 1)) trivial rfl
  have hchunk : LogChunk.ofTexts 0 0 ["line 1", "line 2"] 2 =
      .ok ⟨[LogLine.numbered 1, LogLine.numbered 2], 2⟩ := rfl
  have hops : ∀ op ∈ [WindowOp.append 7 (LogLine.numbered 4), .flush,
      .append 7 (LogLine.numbered 3), .append 7 (LogLine.numbered 1)],
      op = .flush ∨ ∃ l, op = .append 7 l ∧ 0 < l.number := by
    intro op hop
    simp only [List.mem_cons, List.not_mem_nil, or_false] at hop
    rcases hop with rfl | rfl | rfl | rfl
    · exact .inr ⟨_, rfl, by decide⟩
    · exact .inl rfl
    · exact .inr ⟨_, rfl, by decide⟩
    · exact .inr ⟨_, rfl, by decide⟩
  exact ⟨_, hrun, hchunk, tail_read_keeps_streamed_lines (by decide) (by decide) hops hrun rfl
    hchunk (by decide) (by decide) (by decide) rfl (by decide)⟩

end Session

end TaskConsole
