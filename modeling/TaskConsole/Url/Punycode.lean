/-! Punycode, the bootstring encoding of RFC 3492 with the parameters of international
domain names. -/

namespace TaskConsole.Url.Punycode

/-- The character of a base-36 digit: `a`–`z` for 0–25, `0`–`9` for 26–35. -/
def digitChar (d : Nat) : Char :=
  if d < 26 then Char.ofNat (97 + d) else Char.ofNat (22 + d)

/-- The value of a base-36 digit character, of either case. -/
def digitValue (c : Char) : Option Nat :=
  if 'a' ≤ c ∧ c ≤ 'z' then some (c.toNat - 97)
  else if 'A' ≤ c ∧ c ≤ 'Z' then some (c.toNat - 65)
  else if '0' ≤ c ∧ c ≤ '9' then some (c.toNat - 22)
  else none

/-- The threshold of the digit at weight position `k`. -/
def threshold (k bias : Nat) : Nat :=
  if k ≤ bias then 1 else if bias + 26 ≤ k then 26 else k - bias

/-- Scale `delta` down by 35 until it is at most 455, counting the steps in
multiples of 36. -/
def adaptLoop : Nat → Nat → Nat → Nat × Nat
  | 0, delta, k => (delta, k)
  | fuel + 1, delta, k => if 455 < delta then adaptLoop fuel (delta / 35) (k + 36) else (delta, k)

/-- The bias after a code point, from the last distance and the number of code
points so far. -/
def adapt (delta points : Nat) (first : Bool) : Nat :=
  let d := if first then delta / 700 else delta / 2
  let d := d + d / points
  let (d, k) := adaptLoop d d 0
  k + 36 * d / (d + 38)

/-- The digits of a distance `q`, from weight position `k`. -/
def encodeDigits (bias : Nat) : Nat → Nat → Nat → List Char
  | 0, _, q => [digitChar q]
  | fuel + 1, k, q =>
    let t := threshold k bias
    if q < t then [digitChar q]
    else digitChar (t + (q - t) % (36 - t)) :: encodeDigits bias fuel (k + 36) ((q - t) / (36 - t))

/-- The encoder's state: the output so far, the distance, the bias and the
number of code points handled. -/
structure Encoder where
  out : List Char
  delta : Nat
  bias : Nat
  handled : Nat

/-- Pass one input character while inserting code point `m`. -/
def encodeStep (basic m : Nat) (e : Encoder) (c : Char) : Encoder :=
  if c.toNat < m then { e with delta := e.delta + 1 }
  else if c.toNat == m then
    { out := e.out ++ encodeDigits e.bias (e.delta + 1) 36 e.delta, delta := 0,
      bias := adapt e.delta (e.handled + 1) (e.handled == basic), handled := e.handled + 1 }
  else e

/-- Insert the code points `ms`, in increasing order, after code point `n`. -/
def encodeLoop (input : List Char) (basic : Nat) : List Nat → Nat → Encoder → Encoder
  | [], _, e => e
  | m :: rest, n, e =>
    let e := { e with delta := e.delta + (m - n) * (e.handled + 1) }
    let e := input.foldl (encodeStep basic m) e
    encodeLoop input basic rest (m + 1) { e with delta := e.delta + 1 }

/-- The distinct code points at or above 128, in increasing order. -/
def wideCodes (input : List Char) : List Nat :=
  ((input.map Char.toNat).filter (128 ≤ ·)).eraseDups.mergeSort (· ≤ ·)

/-- The Punycode of a label, without the `xn--` prefix. -/
def encode (input : List Char) : List Char :=
  let basic := input.filter (·.toNat < 128)
  let start := basic ++ (if basic.isEmpty then [] else ['-'])
  (encodeLoop input basic.length (wideCodes input) 128
    { out := start, delta := 0, bias := 72, handled := basic.length }).out

/-- The bound of the 32-bit arithmetic of decoding: a step that reaches it
fails. -/
def wordLimit : Nat := Nat.pow 2 32

/-- Read one variable-length number from weight position `k` with weight `w`,
added to `i`; the rest of the input after it. -/
def decodeDigits (bias : Nat) : List Char → Nat → Nat → Nat → Option (Nat × List Char)
  | [], _, _, _ => none
  | c :: rest, k, w, i => do
    let d ← digitValue c
    let i := i + d * w
    if wordLimit ≤ i then none
    let t := threshold k bias
    if d < t then some (i, rest)
    else if wordLimit ≤ w * (36 - t) then none
    else decodeDigits bias rest (k + 36) (w * (36 - t)) i

/-- Insert the decoded code points into `out`. -/
def decodeLoop : Nat → Nat → Nat → Nat → List Char → List Char → Option (List Char)
  | 0, _, _, _, out, _ => some out
  | _, _, _, _, out, [] => some out
  | fuel + 1, bias, n, i, out, c :: rest => do
    let (i', rem) ← decodeDigits bias (c :: rest) 36 1 i
    let points := out.length + 1
    let n' := n + i' / points
    let pos := i' % points
    if n' < 0xD800 ∨ (0xDFFF < n' ∧ n' < 0x110000) then
      decodeLoop fuel (adapt (i' - i) points (i == 0)) n' (pos + 1)
        (out.insertIdx pos (Char.ofNat n')) rem
    else none

/-- The longest Punycode text that is decoded; a longer one is refused. -/
def decodeLimit : Nat := 2000

/-- The longest label that is encoded; a longer one is refused. -/
def encodeLimit : Nat := 1000

/-- The label a Punycode text of at most `decodeLimit` characters stands for: the part
before the last hyphen copied, the rest inserting code points. -/
def decode (input : List Char) : Option (List Char) :=
  let (basic, ext) := match input.reverse.span (· != '-') with
    | (tail, []) => ([], tail.reverse)
    | (_, [_]) => ([], input)
    | (tail, _ :: head) => (head.reverse, tail.reverse)
  if decodeLimit < input.length ∨ basic.any (128 ≤ ·.toNat) then none
  else decodeLoop (ext.length + 1) 72 128 0 basic ext

example : encode "münchen".toList = "mnchen-3ya".toList := by decide +kernel

end TaskConsole.Url.Punycode
