/-! Tables of code point ranges, written compactly as text, read once into an array
and searched by halving (`RangeTable.find?`). -/

namespace TaskConsole.Text

/-- A range of code points, `first` to `last`, with a value. -/
structure Range (α : Type) where
  first : Nat
  last : Nat
  value : α

/-- Ranges sorted by first code point, not overlapping. -/
abbrev RangeTable (α : Type) := Array (Range α)

namespace RangeTable

variable {α : Type}

/-- The last range whose first code point is at most `n`, among the ranges
from `lo` on, knowing that those from `hi` on start above `n`; `fuel`
bounds the halvings. -/
def lastAtMost (t : RangeTable α) (n : Nat) : Nat → Nat → Nat → Option (Range α)
  | 0, _, _ => none
  | fuel + 1, lo, hi =>
    if hi ≤ lo then (if lo = 0 then none else t[lo - 1]?)
    else
      let mid := (lo + hi) / 2
      match t[mid]? with
      | some r => if r.first ≤ n then lastAtMost t n fuel (mid + 1) hi else lastAtMost t n fuel lo mid
      | none => none

/-- The value of the range holding `n`, if one does. -/
def find? (t : RangeTable α) (n : Nat) : Option α :=
  match lastAtMost t n (Nat.log2 t.size + 2) 0 t.size with
  | some r => if n ≤ r.last then some r.value else none
  | none => none

/-- Whether a range holds `n`. -/
def contains (t : RangeTable Unit) (n : Nat) : Bool := (t.find? n).isSome

end RangeTable

/-! ## Reading tables written as text -/

/-- The value of a hexadecimal digit. -/
def hexDigitValue (c : Char) : Option Nat :=
  if c.isDigit then some (c.toNat - 48)
  else if 'a' ≤ c ∧ c ≤ 'f' then some (c.toNat - 87)
  else if 'A' ≤ c ∧ c ≤ 'F' then some (c.toNat - 55)
  else none

/-- The hexadecimal number at the start of a text, and the rest. -/
def hexPrefix (cs : List Char) : Nat × List Char :=
  let ds := cs.takeWhile fun c => (hexDigitValue c).isSome
  (ds.foldl (fun acc d => acc * 16 + (hexDigitValue d).getD 0) 0, cs.drop ds.length)

/-- The records of a table's text. -/
def records (text : String) : List (List Char) :=
  ((text.splitOn ",").map String.toList).filter (!·.isEmpty)

/-- A record's range, and the rest of the record. -/
def recordRange (cs : List Char) : Nat × Nat × List Char :=
  let (first, rest) := hexPrefix cs
  match rest with
  | '-' :: more =>
    let (last, rest) := hexPrefix more
    (first, last, rest)
  | _ => (first, first, rest)

/-- A table from its text, reading each record's value with `value`. -/
def RangeTable.ofText {α : Type} (text : String) (value : List Char → α) : RangeTable α :=
  ((records text).map fun r =>
    let (first, last, rest) := recordRange r
    { first, last, value := value rest }).toArray

/-- A table from its text, each record holding only the first code point of
its range and its value: the range lasts up to the next record. -/
def RangeTable.ofStarts {α : Type} (text : String) (value : List Char → α) : RangeTable α :=
  let starts := (records text).map fun r =>
    let (first, rest) := hexPrefix r
    (first, value rest)
  let nexts := (starts.drop 1).map (·.1) ++ [0x110000]
  (starts.zip nexts |>.map fun ((first, v), next) => { first, last := next - 1, value := v }).toArray

end TaskConsole.Text
