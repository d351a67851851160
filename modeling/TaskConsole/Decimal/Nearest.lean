/-! `nearestFloat n e`, the double nearest `n · 10^e` with ties to the even
significand, from an exact `Nat` quotient. -/

namespace TaskConsole.Decimal

/-- Round `num / den` to the nearest natural number, ties to even. -/
def roundDiv (num den : Nat) : Nat :=
  let q := num / den
  let r := num % den
  if 2 * r > den ∨ (2 * r = den ∧ q % 2 = 1) then q + 1 else q

/-- The double `m · 2^k` for a significand below `2^54`. -/
def scaled (m : Nat) (k : Int) : Float :=
  (Float.ofNat m).scaleB k

/-- The double nearest to `num / den · 2^k`, where `num / den` is positive:
its significand has 53 bits, or fewer below the normal range. -/
def nearestRatio (num den : Nat) : Float :=
  -- choose `k` with `2^52 ≤ num · 2^k / den < 2^53`
  let approx : Int := (Nat.log2 num : Int) - (Nat.log2 den : Int)
  let k0 : Int := 52 - approx
  let fits (k : Int) : Bool :=
    let (a, b) := if k ≥ 0 then (num * Nat.pow 2 k.toNat, den) else (num, den * Nat.pow 2 (-k).toNat)
    Nat.pow 2 52 * b ≤ a
  let k := if fits k0 then k0 else k0 + 1
  let k := min k 1074
  let (a, b) := if k ≥ 0 then (num * Nat.pow 2 k.toNat, den) else (num, den * Nat.pow 2 (-k).toNat)
  let m := roundDiv a b
  if -k > 971 then Float.ofScientific 1 false 400 else scaled m (-k)

/-- The double nearest to `n · 10^e`. -/
def nearestFloat (n : Nat) (e : Int) : Float :=
  if n = 0 then 0.0
  else if e ≥ 0 then
    if e > 400 then Float.ofScientific 1 false 400 else nearestRatio (n * Nat.pow 10 e.toNat) 1
  else if e < -400 - (Nat.log2 n : Int) then 0.0
  else nearestRatio n (Nat.pow 10 (-e).toNat)

end TaskConsole.Decimal
