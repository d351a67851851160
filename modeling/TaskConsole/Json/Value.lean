import TaskConsole.Decimal.Shortest
import TaskConsole.Text.Quote

/-! JSON values as trees: numbers keep the class the reader gave them, and an object
keeps one member per key, the later of two. -/

namespace TaskConsole.Json

/-- A JSON number, classified as the reader found it. -/
inductive Number where
  /-- A whole number in `[0, 2^64)`. -/
  | nat (n : Nat)
  /-- A whole number in `[-2^63, 0)`. -/
  | negative (n : Int)
  /-- Any other number, as the nearest double. -/
  | float (f : Float)
  deriving Repr, Inhabited

/-- A JSON value. -/
inductive Value where
  | null
  | bool (b : Bool)
  | number (n : Number)
  | string (s : String)
  | array (items : List Value)
  | object (fields : List (String × Value))
  deriving Repr, Inhabited

/-- Insert a member into members ascending by key, replacing a member of the same key. -/
def insertMember (k : String) (v : Value) : List (String × Value) → List (String × Value)
  | [] => [(k, v)]
  | (k', v') :: rest =>
    if k < k' then (k, v) :: (k', v') :: rest
    else if k = k' then (k, v) :: rest
    else (k', v') :: insertMember k v rest

/-- The members of an object in document order, as the object keeps them:
ascending by key, the later of two members with one key kept. -/
def objectOf (members : List (String × Value)) : Value :=
  .object (members.foldl (fun acc (k, v) => insertMember k v acc) [])

/-- A double as decoding errors cite it: the shortest digits, positional with a
`.0` for a whole value from `1e-5` up to `1e16`, otherwise one digit before the
point and an exponent with its sign and no leading zeros. -/
def floatText (f : Float) : String :=
  match Decimal.shortest f with
  | none => Decimal.showFloat f
  | some d =>
    let sign := if d.negative then "-" else ""
    if d.digits == 0 then sign ++ "0.0"
    else
      let ds := Nat.toDigits 10 d.digits
      let kk : Int := ds.length + d.exponent
      if -5 < kk ∧ kk ≤ 16 then
        let plain := d.plain
        if d.exponent ≥ 0 then plain ++ ".0" else plain
      else
        let e := kk - 1
        let mantissa := match ds with
          | [c] => String.ofList [c]
          | c :: rest => String.ofList (c :: '.' :: rest)
          | [] => "0"
        sign ++ mantissa ++ "e" ++ (if e < 0 then "-" else "+") ++ toString e.natAbs

/-- What a decoder found where it expected something else. -/
inductive Unexpected where
  | bool (b : Bool)
  | unsigned (n : Nat)
  | signed (n : Int)
  | float (f : Float)
  | string (s : String)
  | null
  | sequence
  | map

/-- How a decoding error cites what it found. -/
def Unexpected.describe : Unexpected → String
  | .bool b => "boolean `" ++ toString b ++ "`"
  | .unsigned n => "integer `" ++ toString n ++ "`"
  | .signed n => "integer `" ++ toString n ++ "`"
  | .float f => "floating point `" ++ floatText f ++ "`"
  | .string s => "string " ++ Text.quote s
  | .null => "null"
  | .sequence => "sequence"
  | .map => "map"

/-- What a value is, as a decoding error cites it. -/
def Value.unexpected : Value → Unexpected
  | .null => .null
  | .bool b => .bool b
  | .number (.nat n) => .unsigned n
  | .number (.negative n) => .signed n
  | .number (.float f) => .float f
  | .string s => .string s
  | .array _ => .sequence
  | .object _ => .map

end TaskConsole.Json
