/-! Log lines: a number counted from 1 and a text; equality looks at both. -/

namespace TaskConsole

/-- One line of a task's log: its number, counted from 1, and its text. -/
structure LogLine where
  number : Nat
  text : String
  deriving DecidableEq, Repr, Inhabited

namespace LogLine

/-- The text of the `n`-th line of a log whose lines are numbered in their text. -/
def numberedText (n : Nat) : String :=
  "line " ++ toString n

/-- The `n`-th line of a log whose lines are numbered in their text. -/
def numbered (n : Nat) : LogLine :=
  ⟨n, numberedText n⟩

end LogLine

end TaskConsole
