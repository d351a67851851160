import TaskConsole.Window.Config
import TaskConsole.Log.LineMap
import TaskConsole.Log.Chunk
import TaskConsole.Error

/-! Log windows: a bounded run of one task's log fed by primary loads, prefetches and
streamed lines, with its scroll geometry checked against the word size. -/

namespace TaskConsole

/-- An inclusive range of line numbers, counted from 1. -/
structure LineRange where
  first : Nat
  last : Nat
  deriving DecidableEq, Repr

/-- What a load asks for. -/
inductive LoadKind where
  /-- The last lines of the log, when a task is opened. -/
  | tail
  /-- A range the user jumped to. -/
  | range
  /-- The lines above the window, staged before they are shown. -/
  | prefetch
  deriving DecidableEq, Repr

/-- A load the caller must perform and report back. -/
structure LoadTicket where
  generation : Nat
  task : Nat
  kind : LoadKind
  /-- Requested bounds; `0, 0` for a tail read. -/
  first : Nat
  last : Nat
  deriving DecidableEq, Repr

/-- Lines fetched by a prefetch and not yet spliced into the display. -/
structure StagedLines where
  lines : List LogLine
  range : LineRange
  deriving Repr

/-- What the window shows besides, or instead of, lines. -/
inductive DisplayState where
  /-- No task is open. -/
  | idle
  | loading
  | empty
  | error (message : String)
  | lines
  deriving DecidableEq, Repr

/-- How a load result was taken. -/
inductive LoadOutcome where
  | applied
  /-- The window moved on since the load was issued. -/
  | stale
  | failed (error : LoadError)
  deriving DecidableEq, Repr

/-- What a flush did: lines moved in, lines dropped, and whether it followed
the bottom. -/
structure FlushReport where
  rendered : Nat := 0
  pruned : Nat := 0
  followed : Bool := false
  deriving DecidableEq, Repr

/-- Which end of the display gives way when it outgrows its bound. -/
inductive Trim where
  /-- The end farther from the viewport. -/
  | farthest
  | bottom
  deriving DecidableEq, Repr

/-- A window over one task's log lines. -/
structure Window where
  config : WindowConfig
  task : Option Nat := none
  generation : Nat := 0
  totalLines : Nat := 0
  loaded : Option LineRange := none
  moreAbove : Bool := false
  batchSize : Nat
  pending : Option StagedLines := none
  inFlight : Option LoadTicket := none
  /-- Streamed lines awaiting the next flush, in arrival order. -/
  buffer : List LogLine := []
  /-- Materialised lines, by number. -/
  display : LineMap := LineMap.empty
  state : DisplayState := .idle
  /-- Distance from the top of the content to the top of the viewport. -/
  scroll : Nat := 0
  viewportHeight : Nat := 0

namespace Window

/-- A fresh window with no task. -/
def new (config : WindowConfig) : Window :=
  { config, batchSize := config.initialBatch }

/-- Height of the materialised lines. -/
def contentHeight (w : Window) : Checked Nat :=
  Word.mul w.display.size w.config.lineHeight

/-- The largest scroll offset: the content height less the viewport height. -/
def maxScroll (w : Window) : Checked Nat := do
  let h ← w.contentHeight
  pure (h - w.viewportHeight)

/-- Within the follow threshold (at least one unit) of the bottom. -/
def isFollowing (w : Window) : Checked Bool := do
  let h ← w.contentHeight
  let below := h - w.scroll - w.viewportHeight
  pure (decide (below < max w.config.followThreshold 1))

/-- Whole lines that fit in the viewport. -/
def viewportRows (w : Window) : Nat :=
  w.viewportHeight / w.config.lineHeight

/-- Index of the first line shown. -/
def firstVisible (w : Window) : Nat :=
  w.scroll / w.config.lineHeight

/-- The lines inside the viewport, top first; a partly shown line counts. -/
def visibleLines (w : Window) : List LogLine :=
  let rows := (w.viewportHeight + w.config.lineHeight - 1) / w.config.lineHeight
  (w.display.lines.drop w.firstVisible).take rows

/-- Whether a load is outstanding. -/
def isLoading (w : Window) : Bool := w.inFlight.isSome

/-- Whether streamed lines wait for the next flush. -/
def flushDue (w : Window) : Bool := !w.buffer.isEmpty

/-- Scroll to the top. -/
def scrollToTop (w : Window) : Window := { w with scroll := 0 }

/-- Scroll to the bottom. -/
def scrollToBottom (w : Window) : Checked Window := do
  let m ← w.maxScroll
  pure { w with scroll := m }

/-- Keep the scroll offset within the content. -/
def clampScroll (w : Window) : Checked Window := do
  let m ← w.maxScroll
  pure { w with scroll := min w.scroll m }

/-- Scroll by whole lines; a negative count scrolls up, stopping at the top,
and a positive one down, stopping at the bottom. -/
def scrollLines (w : Window) (delta : Int) : Checked Window := do
  let units ← Word.mul delta.natAbs w.config.lineHeight
  if delta < 0 then
    pure { w with scroll := w.scroll - units }
  else
    let target ← Word.add w.scroll units
    let m ← w.maxScroll
    pure { w with scroll := min target m }

/-- Resize the viewport to `rows` lines; a window that followed the bottom
keeps following it. -/
def setViewportRows (w : Window) (rows : Nat) : Checked Window := do
  let follow ← w.isFollowing
  let height ← Word.mul rows w.config.lineHeight
  let w := { w with viewportHeight := height }
  if follow then w.scrollToBottom else w.clampScroll

/-- One pruning step: drop the first line when trimming the farther end and the
viewport is no nearer the top than the bottom, else the last line. -/
def pruneStep (w : Window) (trim : Trim) : Checked Window := do
  let above := w.firstVisible
  let reach ← Word.add above w.viewportRows
  let below := w.display.size - reach
  if trim = .farthest ∧ above ≥ below then
    pure { w with display := w.display.dropFirst, scroll := w.scroll - w.config.lineHeight }
  else
    pure { w with display := w.display.dropLast }

/-- Drop lines until at most `maxDisplayLines` remain; `fuel` bounds the steps,
and each step drops one line. Returns the window and how many were dropped. -/
def pruneWith (trim : Trim) : Nat → Window → Nat → Checked (Window × Nat)
  | 0, w, count => pure (w, count)
  | fuel + 1, w, count =>
    if w.display.size > w.config.maxDisplayLines then do
      let w ← w.pruneStep trim
      pruneWith trim fuel w (count + 1)
    else pure (w, count)

/-- Drop lines beyond `maxDisplayLines` from the end `trim` chooses. The loaded
range keeps describing what was fetched. -/
def prune (w : Window) (trim : Trim) : Checked (Window × Nat) :=
  pruneWith trim w.display.size w 0

/-- The header line of the window. -/
def header (w : Window) : String :=
  match w.state with
  | .idle => ""
  | .loading => "Loading logs..."
  | .empty => "No logs available."
  | .error m => "Failed to load logs: " ++ m
  | .lines =>
    match w.loaded with
    | some r => "Showing lines " ++ toString r.first ++ "-" ++ toString r.last ++ " of " ++
        toString w.totalLines
    | none => ""

end Window

end TaskConsole
