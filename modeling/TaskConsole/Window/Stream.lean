import TaskConsole.Window.Basic

/-! Streamed lines wait in a buffer and `flush` moves them into the display in one
stable batch; a window that followed the bottom follows it after. -/

namespace TaskConsole

namespace Window

/-- Insert a line into lines sorted by number, after those numbered no higher. -/
def insertByNumber (l : LogLine) : List LogLine → List LogLine
  | [] => [l]
  | x :: xs => if x.number ≤ l.number then x :: insertByNumber l xs else l :: x :: xs

/-- The buffer sorted by number, keeping arrival order among equal numbers. -/
def sortedBatch (lines : List LogLine) : List LogLine :=
  lines.foldl (fun sorted l => insertByNumber l sorted) []

/-- Move the buffered lines into the display in one batch. -/
def flush (w : Window) : Checked (Window × FlushReport) :=
  if w.buffer.isEmpty then pure (w, {})
  else do
    let follow ← w.isFollowing
    let batch := sortedBatch w.buffer
    let state := if w.state = .empty then .lines else w.state
    let w : Window := { w with buffer := [], display := w.display.insertAll batch, state }
    let w ← if follow then w.scrollToBottom else pure w
    let (w, pruned) ← w.prune .farthest
    let w ← if follow then w.scrollToBottom else w.clampScroll
    pure (w, { rendered := batch.length, pruned, followed := follow })

/-- Buffer a line streamed for `task`. It is refused unless that task is open
and the line is numbered from 1. An accepted line raises the known length of
the log and widens the loaded range to reach it; a full buffer is flushed. -/
def appendStreamed (w : Window) (task : Nat) (line : LogLine) : Checked (Window × Bool) :=
  if w.task ≠ some task ∨ line.number = 0 then pure (w, false)
  else do
    let total := max w.totalLines line.number
    let loaded : LineRange := match w.loaded with
      | some r => ⟨min r.first line.number, total⟩
      | none => ⟨line.number, total⟩
    let w : Window := { w with totalLines := total, loaded := some loaded, buffer := w.buffer ++ [line] }
    if w.buffer.length ≥ w.config.flushThreshold then do
      let (w, _) ← w.flush
      pure (w, true)
    else pure (w, true)

end Window

end TaskConsole
