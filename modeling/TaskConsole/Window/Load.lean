import TaskConsole.Window.Stream

/-! Loads: at most one outstanding, a result taken only for a ticket of the current
generation and task (`complete`), primary results replacing the display. -/

namespace TaskConsole

namespace Window

/-- Forget the task and everything shown, in a new generation. The viewport's
height is kept. -/
def reset (w : Window) : Window :=
  { w with
    generation := w.generation + 1
    task := none
    totalLines := 0
    loaded := none
    moreAbove := false
    batchSize := w.config.initialBatch
    pending := none
    inFlight := none
    buffer := []
    display := LineMap.empty
    state := .idle
    scroll := 0 }

/-- Record a new load as the one in flight. -/
def issue (w : Window) (task : Nat) (kind : LoadKind) (first last : Nat) : Window × LoadTicket :=
  let ticket : LoadTicket := ⟨w.generation, task, kind, first, last⟩
  ({ w with inFlight := some ticket }, ticket)

/-- Open the log of `task`, replacing whatever was shown, and ask for its tail. -/
def openTask (w : Window) (task : Nat) : Window × LoadTicket :=
  let w : Window := { w.reset with task := some task, state := .loading }
  w.issue task .tail 0 0

/-- Open the current task again from its tail, if a task is open. -/
def reload (w : Window) : Window × Option LoadTicket :=
  match w.task with
  | some task =>
    let (w, t) := w.openTask task
    (w, some t)
  | none => (w, none)

/-- Close the view. Loads in flight finish later and are found stale. -/
def close (w : Window) : Window := w.reset

/-- Jump to lines `first..last` of the open task, from 1 on and not ending before it
starts; dropped while a primary load is outstanding, superseding a prefetch. -/
def loadRange (w : Window) (first last : Nat) : Except LoadError (Window × Option LoadTicket) :=
  if first < 1 ∨ last < first then .error (.invalidRange first last)
  else
    match w.task with
    | none => .ok (w, none)
    | some task =>
      if w.inFlight.any (fun t => t.kind != .prefetch) then .ok (w, none)
      else
        let w : Window := { w with
          generation := w.generation + 1
          pending := none
          batchSize := w.config.initialBatch
          moreAbove := false }
        let (w, t) := w.issue task .range first last
        .ok (w, some t)

/-- Splice the staged prefetch in above the window. The scroll offset moves
down by the height of the lines added, then the bottom gives way if the
display outgrew its bound. `false` when nothing was staged. -/
def commitPrefetch (w : Window) : Checked (Window × Bool) :=
  match w.pending with
  | none => pure (w, false)
  | some staged => do
    let added := (staged.lines.map (·.number)).eraseDups.filter (!w.display.contains ·)
    let shift ← Word.mul added.length w.config.lineHeight
    let scroll ← Word.add w.scroll shift
    let loaded := w.loaded.map fun r => { r with first := min r.first staged.range.first }
    let w : Window := { w with
      pending := none
      display := w.display.insertAll staged.lines
      loaded
      scroll }
    let (w, _) ← w.prune .bottom
    pure (w, true)

/-- The lines of a primary result as the window takes them: a tail keeps its
last `initialBatch` lines. -/
def primaryLines (w : Window) (kind : LoadKind) (lines : List LogLine) : List LogLine :=
  if kind = .tail ∧ lines.length > w.config.initialBatch then
    lines.drop (lines.length - w.config.initialBatch)
  else lines

/-- What a tail result continues with: the flushed lines past the chunk, the
buffer without lines before the chunk, and the numbers of streamed lines past
the chunk. -/
def streamedPast (w : Window) (first? last? : Option Nat) :
    Checked (LineMap × List LogLine × List Nat) := do
  let streamed ← match last? with
    | some last => do
      let bound ← Word.add last 1
      pure (w.display.splitAt bound).2
    | none => pure w.display
  let buffer := match first? with
    | some first => w.buffer.filter (fun l => first ≤ l.number)
    | none => w.buffer
  let past (n : Nat) : Bool := match last? with
    | some last => last < n
    | none => true
  let newer := (streamed.numbers ++ buffer.map (·.number)).filter past
  pure (streamed, buffer, newer)

/-- Take a tail or range result. -/
def applyPrimary (w : Window) (ticket : LoadTicket) (result : Except LoadError LogChunk) :
    Checked (Window × LoadOutcome) :=
  let result : Except LoadError LogChunk := match result with
    | .ok c => if c.lines.isEmpty ∧ ticket.kind = LoadKind.range then .error .noData else .ok c
    | e => e
  match result with
  | .error e =>
    pure ({ w with
      loaded := none
      moreAbove := false
      display := LineMap.empty
      scroll := 0
      state := .error e.message }, .failed e)
  | .ok chunk => do
    let lines := w.primaryLines ticket.kind chunk.lines
    let w : Window := { w with totalLines := max w.totalLines chunk.totalLines }
    let first? := lines.head?.map (·.number)
    let last? := lines.getLast?.map (·.number)
    let (streamed, buffer, newer) ←
      if ticket.kind = .tail then w.streamedPast first? last?
      else pure (LineMap.empty, w.buffer, [])
    let w : Window := { w with buffer, display := (LineMap.ofList lines).insertAll streamed.lines }
    let lo := first? <|> newer.min?
    let hi := max last? newer.max?
    match lo, hi with
    | some lo, some hi =>
      let total := max w.totalLines hi
      let w : Window := { w with
        totalLines := total
        loaded := some ⟨lo, hi⟩
        moreAbove := decide (lo > 1)
        state := if w.display.size = 0 then .empty else .lines }
      let atTail := hi = total
      let w ← if atTail then w.scrollToBottom else pure { w with scroll := 0 }
      let (w, _) ← w.prune .farthest
      let w ← if atTail then w.scrollToBottom else pure w
      pure (w, .applied)
    | _, _ =>
      pure ({ w with loaded := none, moreAbove := false, scroll := 0, state := .empty }, .applied)

/-- Where the loaded range starts; with nothing loaded, at the largest word. -/
def loadedStart (w : Window) : Nat :=
  match w.loaded with
  | some r => r.first
  | none => wordMax

/-- Take a prefetch result: keep the lines above the window, stage them, double
the next batch up to its cap, and splice them in if the view is near the top. -/
def applyPrefetch (w : Window) (result : Except LoadError LogChunk) :
    Checked (Window × LoadOutcome) :=
  match result with
  | .error e => pure (w, .failed e)
  | .ok chunk => do
    let lines := chunk.lines.filter (·.number < w.loadedStart)
    let w : Window := { w with totalLines := max w.totalLines chunk.totalLines }
    match lines.head?, lines.getLast? with
    | some lo, some hi =>
      let doubled ← Word.mul w.batchSize 2
      let w : Window := { w with
        moreAbove := decide (lo.number > 1)
        batchSize := min doubled w.config.maxBatch
        pending := some ⟨lines, ⟨lo.number, hi.number⟩⟩ }
      if w.scroll ≤ w.config.commitDistance then do
        let (w, _) ← w.commitPrefetch
        pure (w, .applied)
      else pure (w, .applied)
    | _, _ => pure ({ w with moreAbove := false }, .applied)

/-- Take the result of a load this window issued. A ticket of another
generation or task is stale and changes nothing. -/
def complete (w : Window) (ticket : LoadTicket) (result : Except LoadError LogChunk) :
    Checked (Window × LoadOutcome) :=
  if ticket.generation ≠ w.generation ∨ w.task ≠ some ticket.task then pure (w, .stale)
  else
    let w := if w.inFlight = some ticket then { w with inFlight := none } else w
    match ticket.kind with
    | .prefetch => w.applyPrefetch result
    | _ => w.applyPrimary ticket result

/-- Whether the scroll position is within the prefetch fraction of the viewport
height from the top. -/
def nearTop (w : Window) (position height : Nat) : Bool :=
  Float.ofNat position < Float.ofNat height * w.config.prefetchFraction

/-- Ask for the batch of lines above the window when scrolled near the top: only
while lines are shown, more exist above, nothing is in flight or staged. -/
def prefetchAbove (w : Window) (position height : Nat) : Window × Option LoadTicket :=
  match w.task, w.loaded with
  | some task, some loaded =>
    if w.state ≠ .lines ∨ !w.moreAbove ∨ w.isLoading ∨ w.pending.isSome then (w, none)
    else if !w.nearTop position height then (w, none)
    else if loaded.first < 2 then (w, none)
    else
      let last := loaded.first - 1
      let first := max 1 (last - (w.batchSize - 1))
      let (w, t) := w.issue task .prefetch first last
      (w, some t)
  | _, _ => (w, none)

/-- React to the view's scroll position: ask for the lines above when near the
top, and splice a staged prefetch in when within the commit distance. -/
def onScroll (w : Window) : Checked (Window × Option LoadTicket) := do
  let _ ← w.contentHeight
  let position := w.scroll
  let (w, ticket) := w.prefetchAbove position w.viewportHeight
  if position ≤ w.config.commitDistance ∧ w.pending.isSome then do
    let (w, _) ← w.commitPrefetch
    pure (w, ticket)
  else pure (w, ticket)

end Window

end TaskConsole
