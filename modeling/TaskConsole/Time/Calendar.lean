/-! Calendar dates of Unix times in 400-year eras (`civilOfDays`), and
`formatTimestamp`, `YYYY-MM-DD HH:MM:SS` or `N/A`. -/

namespace TaskConsole.Time

/-- The date `(year, month, day)` of a day count from 1970-01-01. -/
def civilOfDays (days : Int) : Int × Nat × Nat :=
  let z := days + 719468
  let era := z.fdiv 146097
  let doe := (z - era * 146097).toNat
  let yoe := (doe - doe / 1460 + doe / 36524 - doe / 146096) / 365
  let doy := doe - (365 * yoe + yoe / 4 - yoe / 100)
  let mp := (5 * doy + 2) / 153
  let d := doy - (153 * mp + 2) / 5 + 1
  let m := if mp < 10 then mp + 3 else mp - 9
  let y : Int := yoe + era * 400
  (if m ≤ 2 then y + 1 else y, m, d)

/-- A number with at least `width` digits, zeros in front. -/
def padded (width n : Nat) : String :=
  let ds := Nat.toDigits 10 n
  String.ofList (List.replicate (width - ds.length) '0' ++ ds)

/-- A year as dates show it: four digits, or a sign and at least four digits
outside 0 to 9999. -/
def yearText (y : Int) : String :=
  if 0 ≤ y ∧ y < 10000 then padded 4 y.toNat
  else (if y < 0 then "-" else "+") ++ padded 4 y.natAbs

/-- The seconds as a signed 64-bit number. -/
def signedSeconds (secs : Nat) : Int :=
  let s : Nat := secs % Nat.pow 2 64
  if s < Nat.pow 2 63 then s else (s : Int) - Int.pow 2 64

/-- A Unix time as `YYYY-MM-DD HH:MM:SS` in UTC; `N/A` for 0 or out of range. -/
def formatTimestamp (secs : Nat) : String :=
  if secs = 0 then "N/A"
  else
    let t := signedSeconds secs
    let days := t.fdiv 86400
    let rest := (t - days * 86400).toNat
    let (y, m, d) := civilOfDays days
    if y < -262143 ∨ y > 262142 then "N/A"
    else
      yearText y ++ "-" ++ padded 2 m ++ "-" ++ padded 2 d ++ " " ++ padded 2 (rest / 3600) ++
        ":" ++ padded 2 (rest / 60 % 60) ++ ":" ++ padded 2 (rest % 60)

end TaskConsole.Time
