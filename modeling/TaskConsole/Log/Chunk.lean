import TaskConsole.Log.Line
import TaskConsole.Word

/-! Log chunks: the lines one read returns and the log's length. `LogChunk.ofTexts`
numbers bare texts from the read's bounds; `NumberedLog` serves a log of `line n`. -/

namespace TaskConsole

/-- Lines returned by one log read, with the log's length as reported. -/
structure LogChunk where
  lines : List LogLine
  totalLines : Nat
  deriving Repr, Inhabited

namespace LogChunk

/-- The number of the chunk's first line. -/
def firstLine? (c : LogChunk) : Option Nat := c.lines.head?.map (·.number)

/-- The number of the chunk's last line. -/
def lastLine? (c : LogChunk) : Option Nat := c.lines.getLast?.map (·.number)

/-- Number `texts` consecutively from `first`, each number checked to fit a word. -/
def numberFrom (first : Nat) : List String → Nat → Checked (List LogLine)
  | [], _ => pure []
  | t :: ts, i => do
    let n ← Word.add first i
    let rest ← numberFrom first ts (i + 1)
    pure (⟨n, t⟩ :: rest)

/-- Where a read's texts start and how many of them are kept. -/
def wireWindow (first last count total : Nat) : Checked (Nat × Nat) :=
  if first = 0 ∧ last = 0 then do
    let start ← Word.add (total - count) 1
    pure (start, count)
  else do
    let span ← Word.add (last - first) 1
    pure (max first 1, min count span)

/-- The chunk made of the texts a read of bounds `first, last` returned. -/
def ofTexts (first last : Nat) (texts : List String) (total : Nat) : Checked LogChunk := do
  let (start, keep) ← wireWindow first last texts.length total
  let lines ← numberFrom start (texts.take keep) 0
  pure ⟨lines, total⟩

end LogChunk

/-- How many lines a tail read of the server returns. -/
def serverTailLines : Nat := 100

/-- A log of `length` lines whose `n`-th line reads `line n`. -/
structure NumberedLog where
  length : Nat

namespace NumberedLog

/-- The texts of lines `a` to `b` of the log, those that exist. -/
def texts (a b : Nat) : List String :=
  (List.range (b + 1 - a)).map (fun i => LogLine.numberedText (a + i))

/-- The texts the server returns for a read of bounds `first, last`. -/
def window (log : NumberedLog) (first last : Nat) : List String :=
  if first = 0 ∧ last = 0 then
    texts (max 1 (log.length + 1 - serverTailLines)) log.length
  else
    texts (max first 1) (min last log.length)

/-- The chunk the server returns for a read of bounds `first, last`. -/
def read (log : NumberedLog) (first last : Nat) : Checked LogChunk :=
  LogChunk.ofTexts first last (log.window first last) log.length

end NumberedLog

end TaskConsole
