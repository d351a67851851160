import TaskConsole.Json.Error

/-! Typed decoding of JSON trees: range-checked numbers, and structures read member by
member in key order (`Value.members`). -/

namespace TaskConsole.Json

/-- A decoding result. -/
abbrev Decoded := Except Error

namespace Value

/-- A whole number in `[0, bound)`; `expected` names the target in errors. -/
def toUnsigned (bound : Nat) (expected : String) : Value → Decoded Nat
  | .number (.nat n) =>
    if n < bound then .ok n else .error (.invalidValue (.unsigned n) expected)
  | .number (.negative n) => .error (.invalidValue (.signed n) expected)
  | v => .error (.invalidType v.unexpected expected)

/-- A whole number in `[lo, hi)`; `expected` names the target in errors. -/
def toSigned (lo hi : Int) (expected : String) : Value → Decoded Int
  | .number (.nat n) =>
    if (n : Int) < hi then .ok n else .error (.invalidValue (.unsigned n) expected)
  | .number (.negative n) =>
    if lo ≤ n then .ok n else .error (.invalidValue (.signed n) expected)
  | v => .error (.invalidType v.unexpected expected)

/-- An unsigned 64-bit word. -/
def toU64 : Value → Decoded Nat := toUnsigned (Nat.pow 2 64) "u64"

/-- A size: an unsigned 64-bit word. -/
def toUsize : Value → Decoded Nat := toUnsigned (Nat.pow 2 64) "usize"

/-- A byte. -/
def toU8 : Value → Decoded Nat := toUnsigned 256 "u8"

/-- A signed 32-bit integer. -/
def toI32 : Value → Decoded Int := toSigned (-Int.pow 2 31) (Int.pow 2 31) "i32"

/-- A signed 64-bit integer. -/
def toI64 : Value → Decoded Int := toSigned (-Int.pow 2 63) (Int.pow 2 63) "i64"

/-- A double; whole numbers become the nearest double. -/
def toFloat : Value → Decoded Float
  | .number (.nat n) => .ok (Float.ofNat n)
  | .number (.negative n) => .ok (-(Float.ofNat n.natAbs))
  | .number (.float f) => .ok f
  | v => .error (.invalidType v.unexpected "f64")

/-- A string. -/
def toStr : Value → Decoded String
  | .string s => .ok s
  | v => .error (.invalidType v.unexpected "a string")

/-- A boolean. -/
def toBool : Value → Decoded Bool
  | .bool b => .ok b
  | v => .error (.invalidType v.unexpected "a boolean")

/-- `null` as `none`, anything else through `f`. -/
def toOption {α : Type} (f : Value → Decoded α) : Value → Decoded (Option α)
  | .null => .ok none
  | v => some <$> f v

/-- An array, each element through `f`. -/
def toList {α : Type} (f : Value → Decoded α) : Value → Decoded (List α)
  | .array xs => xs.mapM f
  | v => .error (.invalidType v.unexpected "a sequence")

/-- Walk an object's members for a structure decoder. `field k` is the decoder
of member `k` if the structure has it; `refuse` lists the structure's fields if
it refuses unknown members. `seen` holds the members already decoded. -/
def members {α : Type} (field : String → Option (Value → Decoded (α → α)))
    (refuse : Option (List String)) : List (String × Value) → List String → α → Decoded α
  | [], _, acc => .ok acc
  | (k, v) :: rest, seen, acc =>
    match field k with
    | some decode =>
      if seen.contains k then .error (.duplicateField k)
      else do
        let update ← decode v
        members field refuse rest (k :: seen) (update acc)
    | none =>
      match refuse with
      | some names => .error (.unknownField k names)
      | none => members field refuse rest seen acc

/-- Walk an array's elements for a structure decoder, field by field from position
`i`; an absent required field is an invalid length naming the structure. -/
def items {α : Type} (field : String → Option (Value → Decoded (α → α)))
    (optional : Nat → Bool) (expected : String) :
    Nat → List String → List Value → α → Decoded α
  | _, [], _, acc => .ok acc
  | i, _ :: names, [], acc =>
    if optional i then items field optional expected (i + 1) names [] acc
    else .error (.invalidLength i expected)
  | i, name :: names, v :: vs, acc =>
    match field name with
    | some decode => do
      let update ← decode v
      items field optional expected (i + 1) names vs (update acc)
    | none => items field optional expected (i + 1) names vs acc

/-- A structure from an array of its fields: the fields in order, then no
element more. -/
def positional {α : Type} (field : String → Option (Value → Decoded (α → α)))
    (optional : Nat → Bool) (expected : String) (names : List String) (vs : List Value)
    (start : α) : Decoded α := do
  let acc ← items field optional expected 0 names vs start
  if vs.length > names.length then .error (.invalidLength vs.length "fewer elements in array")
  else .ok acc

end Value

end TaskConsole.Json
