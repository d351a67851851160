import TaskConsole.Console.Keys

/-! The event loop: a key, a mouse action, a frame tick or a reply per turn; a frame
flushes streamed lines and tells the log window its height. -/

namespace TaskConsole

/-- What one turn of the event loop takes. A frame tick carries the height of
the area the log window is drawn in. -/
inductive LoopEvent where
  | key (k : Input.KeyPress)
  | mouse (m : Input.MouseAction)
  | frame (rows : Nat)
  | reply (r : Reply)

namespace Console

/-- Draw the screen; the log window, when shown, learns that it is `rows`
rows high. -/
def draw (c : Console) (rows : Nat) : Checked Console :=
  match c.view with
  | .logs => do pure { c with window := ← c.window.setViewportRows rows }
  | .tasks => pure c

/-- The console after one turn of the loop. -/
def step (c : Console) : LoopEvent → Checked Console
  | .key k => c.pressKey k
  | .mouse m => c.useMouse m
  | .frame rows => do
    let c ← c.onFrame
    c.draw rows
  | .reply r => c.onReply r

end Console

end TaskConsole
