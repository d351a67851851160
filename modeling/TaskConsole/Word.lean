/-! Machine words with checked arithmetic: a sum or product leaving the word is an
`Overflow`, and a checked step agrees with exact arithmetic when it fits. -/

namespace TaskConsole

/-- Words hold the values below `wordBound`. -/
def wordBound : Nat := Nat.pow 2 64

/-- The largest word, used where the program starts from "no limit yet". -/
def wordMax : Nat := wordBound - 1

/-- Signed words hold the values in `[-2^63, 2^63)`. -/
def signedBound : Nat := Nat.pow 2 63

/-- An arithmetic step whose exact result does not fit in a word. -/
inductive Overflow where
  | add
  | multiply
  | subtract
  | negate
  deriving DecidableEq, Repr

/-- The message a computation stops with on an overflowing step. -/
def Overflow.message : Overflow → String
  | .add => "attempt to add with overflow"
  | .multiply => "attempt to multiply with overflow"
  | .subtract => "attempt to subtract with overflow"
  | .negate => "attempt to negate with overflow"

/-- A computation that may stop on an overflowing step. -/
abbrev Checked := Except Overflow

namespace Word

/-- The sum of two words, or `Overflow.add` when it does not fit. -/
def add (a b : Nat) : Checked Nat :=
  if a + b < wordBound then .ok (a + b) else .error .add

/-- The product of two words, or `Overflow.multiply` when it does not fit. -/
def mul (a b : Nat) : Checked Nat :=
  if a * b < wordBound then .ok (a * b) else .error .multiply

/-- The difference of two words, or `Overflow.subtract` when it would be negative. -/
def sub (a b : Nat) : Checked Nat :=
  if b ≤ a then .ok (a - b) else .error .subtract

/-- The signed word with the same bits as the word `n`. -/
def signed (n : Nat) : Int :=
  if n < signedBound then n else (n : Int) - wordBound

/-- The negation of a signed word, or `Overflow.negate` for the least one,
whose negation does not fit. -/
def neg (x : Int) : Checked Int :=
  if x = -(signedBound : Int) then .error .negate else .ok (-x)

theorem add_eq_ok {a b : Nat} (h : a + b < wordBound) : add a b = .ok (a + b) := by
  simp [add, h]

theorem mul_eq_ok {a b : Nat} (h : a * b < wordBound) : mul a b = .ok (a * b) := by
  simp [mul, h]

theorem sub_eq_ok {a b : Nat} (h : b ≤ a) : sub a b = .ok (a - b) := by
  simp [sub, h]

/-- A checked sum that succeeds is the exact sum, and it fits. -/
theorem add_eq_ok_iff {a b c : Nat} : add a b = .ok c ↔ a + b < wordBound ∧ c = a + b := by
  by_cases h : a + b < wordBound <;> simp [add, h, eq_comm]

/-- A checked product that succeeds is the exact product, and it fits. -/
theorem mul_eq_ok_iff {a b c : Nat} : mul a b = .ok c ↔ a * b < wordBound ∧ c = a * b := by
  by_cases h : a * b < wordBound <;> simp [mul, h, eq_comm]

end Word

end TaskConsole
