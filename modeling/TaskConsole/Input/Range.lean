import TaskConsole.Text.Blank
import TaskConsole.Word

/-! The range prompt's `FROM-TO`, cut at its first hyphen into two trimmed words of
digits; the log window checks their order. -/

namespace TaskConsole.Input

/-- A decimal number of one word: an optional plus sign, then at least one digit
and nothing else, below `2^64`. -/
def parseWord (s : String) : Option Nat :=
  let cs := match s.toList with
    | '+' :: rest => rest
    | cs => cs
  if cs.isEmpty ∨ !cs.all Char.isDigit then none
  else
    let v := cs.foldl (fun n d => n * 10 + (d.toNat - '0'.toNat)) 0
    if v < wordBound then some v else none

/-- The text before and after the first `c`, if `c` occurs. -/
def splitOnce (s : String) (c : Char) : Option (String × String) :=
  let cs := s.toList
  if cs.contains c then
    some (String.ofList (cs.takeWhile (· != c)), String.ofList ((cs.dropWhile (· != c)).drop 1))
  else none

/-- The bounds typed as `FROM-TO`. -/
def parseRange (input : String) : Option (Nat × Nat) := do
  let (a, b) ← splitOnce input '-'
  let first ← parseWord (Text.trim a)
  let last ← parseWord (Text.trim b)
  pure (first, last)

example : parseRange " 5 - 9 " = some (5, 9) := by decide +kernel

end TaskConsole.Input
