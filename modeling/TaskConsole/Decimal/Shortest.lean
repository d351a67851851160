/-! The shortest decimal that reads back as a double, found by exact `Nat` comparisons
with its rounding interval, and `Decimal.plain`, its positional text. -/

namespace TaskConsole.Decimal

/-- A rational `num · 2^twos · 10^tens`, with integer exponents. -/
structure Scaled where
  num : Nat
  twos : Int
  tens : Int

/-- Both sides scaled to natural numbers by the same positive factor. -/
def Scaled.cross (a b : Scaled) : Nat × Nat :=
  let t := min a.twos b.twos
  let d := min a.tens b.tens
  (a.num * Nat.pow 2 (a.twos - t).toNat * Nat.pow 10 (a.tens - d).toNat,
   b.num * Nat.pow 2 (b.twos - t).toNat * Nat.pow 10 (b.tens - d).toNat)

/-- `a ≤ b`, decided exactly. -/
def Scaled.le (a b : Scaled) : Bool :=
  let (x, y) := a.cross b
  x ≤ y

/-- `a < b`, decided exactly. -/
def Scaled.lt (a b : Scaled) : Bool :=
  let (x, y) := a.cross b
  x < y

/-- The parts of a finite double: sign, and `m`, `e` with magnitude `m · 2^e`.
`none` for an infinity or a NaN. -/
def parts (f : Float) : Option (Bool × Nat × Int) :=
  let bits : Nat := f.toBits.toNat
  let negative := bits / Nat.pow 2 63 % 2 == 1
  let expBits : Nat := bits / Nat.pow 2 52 % Nat.pow 2 11
  let frac : Nat := bits % Nat.pow 2 52
  if expBits == Nat.pow 2 11 - 1 then none
  else if expBits == 0 then some (negative, frac, -1074)
  else some (negative, frac + Nat.pow 2 52, (expBits : Int) - 1075)

end TaskConsole.Decimal

namespace TaskConsole

/-- A decimal `digits · 10^exponent` with a sign. -/
structure Decimal where
  negative : Bool
  digits : Nat
  exponent : Int
  deriving Repr, DecidableEq

end TaskConsole

namespace TaskConsole.Decimal

/-- The number of decimal digits of `n` (one for zero). -/
def digitCount (n : Nat) : Nat :=
  (Nat.toDigits 10 n).length

/-- The exponent `p` with `10^p ≤ m · 2^e < 10^(p+1)`, for `m > 0`. -/
def decimalExponent (m : Nat) (e : Int) : Int :=
  if e ≥ 0 then
    (digitCount (m * Nat.pow 2 e.toNat) : Int) - 1
  else
    let den := Nat.pow 2 (-e).toNat
    if m ≥ den then (digitCount (m / den) : Int) - 1
    else
      -- the first `q` with `m · 10^q ≥ den`; at most 400 steps for a double
      let q := (List.range 400).find? (fun q => m * Nat.pow 10 q ≥ den) |>.getD 400
      -(q : Int)

/-- `⌊m · 2^e / 10^t⌋`. -/
def floorScaled (m : Nat) (e t : Int) : Nat :=
  let num := m * Nat.pow 2 e.toNat * Nat.pow 10 (-t).toNat
  let den := Nat.pow 2 (-e).toNat * Nat.pow 10 t.toNat
  num / den

/-- The decimal with `k` significant digits nearest the double inside its
rounding interval, if one lies inside. -/
def candidate (m : Nat) (e : Int) (p : Int) (k : Nat) : Option (Nat × Int) :=
  let t := p - k + 1
  let lowGap : Nat := if m == Nat.pow 2 52 && e > -1074 then 1 else 2
  let lower : Scaled := ⟨4 * m - lowGap, e - 2, 0⟩
  let upper : Scaled := ⟨4 * m + 2, e - 2, 0⟩
  let value : Scaled := ⟨4 * m, e - 2, 0⟩
  let inclusive := m % 2 == 0
  let inside (d : Nat) : Bool :=
    let c : Scaled := ⟨d, 0, t⟩
    if inclusive then lower.le c && c.le upper else lower.lt c && c.lt upper
  let dLow := floorScaled m e t
  let dHigh := dLow + 1
  match inside dLow, inside dHigh with
  | true, true =>
    -- nearer of the two; on a tie the larger one
    let (a, b) := (Scaled.cross value ⟨dLow, 0, t⟩)
    let (c, d) := (Scaled.cross ⟨dHigh, 0, t⟩ value)
    let belowGap := a - b
    let aboveGap := c - d
    if belowGap < aboveGap then some (dLow, t) else some (dHigh, t)
  | true, false => some (dLow, t)
  | false, true => some (dHigh, t)
  | false, false => none

/-- The digits and exponent of the shortest decimal of `m · 2^e`, `m > 0`. -/
def shortestOf (m : Nat) (e : Int) : Nat × Int :=
  let p := decimalExponent m e
  match (List.range 17).findSome? (fun i => candidate m e p (i + 1)) with
  | some r => r
  | none => (floorScaled m e (p - 16), p - 16)

/-- Strip trailing zero digits, raising the exponent. -/
def normalize (digits : Nat) (exponent : Int) : Nat × Int :=
  let zeros := ((Nat.toDigits 10 digits).reverse.takeWhile (· == '0')).length
  if digits == 0 then (0, 0) else (digits / Nat.pow 10 zeros, exponent + zeros)

/-- The shortest decimal of a finite double; `none` for an infinity or a NaN. -/
def shortest (f : Float) : Option Decimal :=
  (parts f).map fun (negative, m, e) =>
    if m == 0 then ⟨negative, 0, 0⟩
    else
      let (d, t) := shortestOf m e
      let (d, t) := normalize d t
      ⟨negative, d, t⟩

/-- The decimal in positional notation, without a fraction when it is whole. -/
def plain (d : Decimal) : String :=
  let sign := if d.negative then "-" else ""
  let ds := Nat.toDigits 10 d.digits
  if d.exponent ≥ 0 then
    sign ++ String.ofList (ds ++ List.replicate d.exponent.toNat '0')
  else
    let fracLen := (-d.exponent).toNat
    if ds.length > fracLen then
      sign ++ String.ofList (ds.take (ds.length - fracLen)) ++ "." ++
        String.ofList (ds.drop (ds.length - fracLen))
    else
      sign ++ "0." ++ String.ofList (List.replicate (fracLen - ds.length) '0' ++ ds)

/-- A double as shown to a user: positional shortest digits, `NaN`, `inf`, `-inf`. -/
def showFloat (f : Float) : String :=
  match shortest f with
  | some d => d.plain
  | none => if f != f then "NaN" else if f > 0 then "inf" else "-inf"

end TaskConsole.Decimal
