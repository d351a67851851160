import TaskConsole.Word
import TaskConsole.Json.Error
import TaskConsole.Json.OfValue

/-! A streaming reader of JSON text over its bytes, so that of two errors the earlier
is reported, each at the line and byte column its rule gives. -/

namespace TaskConsole.Json

/-- Where the reader stands: the bytes not yet read, how many were read, the
current line and the index where it starts, and how much deeper it may nest. -/
structure Cursor where
  rest : List UInt8
  index : Nat := 0
  line : Nat := 1
  lineStart : Nat := 0
  depth : Nat := 128

/-- A reader of JSON text: it may fail with a decoding error, and a failure
keeps the place where it happened. -/
abbrev Reader := EStateM Error Cursor

namespace Reader

/-- The byte ahead, if any. -/
def peek : Reader (Option UInt8) := do return (← get).rest.head?

/-- Step over the byte ahead. -/
def eat : Reader Unit := modify fun c =>
  match c.rest with
  | [] => c
  | b :: r =>
    { c with rest := r, index := c.index + 1,
             line := if b == 10 then c.line + 1 else c.line,
             lineStart := if b == 10 then c.index + 1 else c.lineStart }

/-- Read the byte ahead. -/
def next : Reader (Option UInt8) := do
  let b ← peek
  eat
  return b

/-- The place after the bytes read. -/
def position : Reader (Nat × Nat) := do
  let c ← get
  return (c.line, c.index - c.lineStart)

/-- The place of the byte ahead: one byte further, if there is one. -/
def peekPosition : Reader (Nat × Nat) := do
  let c ← get
  match c.rest with
  | [] => return (c.line, c.index - c.lineStart)
  | b :: _ => if b == 10 then return (c.line + 1, 0) else return (c.line, c.index + 1 - c.lineStart)

/-- Fail with `message` at the place after the bytes read. -/
def fail {α : Type} (message : String) : Reader α := do
  throw { message, position := some (← position) }

/-- Fail with `message` at the place of the byte ahead. -/
def failAhead {α : Type} (message : String) : Reader α := do
  throw { message, position := some (← peekPosition) }

/-- Run `x`; an error without a place is placed where the reader then stands. -/
def placed {α : Type} (x : Reader α) : Reader α :=
  tryCatch x fun e => do
    let (line, column) ← position
    throw (e.placeAt line column)

/-- The result of `x` as a value, successful or not, keeping its effect. -/
def attempt {α : Type} (x : Reader α) : Reader (Except Error α) :=
  tryCatch (Except.ok <$> x) fun e => pure (.error e)

/-- Skip blanks (space, tab, line feed, carriage return); the byte after. -/
def whitespace (fuel : Nat) : Reader (Option UInt8) := do
  match fuel with
  | 0 => peek
  | fuel + 1 =>
    match ← peek with
    | some 32 | some 9 | some 10 | some 13 => eat; whitespace fuel
    | b => return b

/-- Skip blanks; the byte after. -/
def blank : Reader (Option UInt8) := do
  whitespace ((← get).rest.length)

/-- Read the rest of a keyword whose first byte was read. -/
def ident : List UInt8 → Reader Unit
  | [] => pure ()
  | b :: bs => do
    match ← next with
    | none => fail "EOF while parsing a value"
    | some c => if c == b then ident bs else fail "expected ident"

/-- Whether a byte is a decimal digit. -/
def isDigit (b : UInt8) : Bool := 48 ≤ b && b ≤ 57

/-- Whether a byte starts a number, a string or a keyword. -/
def startsScalar (b : UInt8) : Bool :=
  b == 110 || b == 116 || b == 102 || b == 45 || b == 34 || 48 ≤ b && b ≤ 57

/-- The value of a digit byte. -/
def digit (b : UInt8) : Nat := b.toNat - 48

/-! ## Strings -/

/-- The value of a hexadecimal digit byte. -/
def hexValue (b : UInt8) : Option Nat :=
  if 48 ≤ b && b ≤ 57 then some (b.toNat - 48)
  else if 65 ≤ b && b ≤ 70 then some (b.toNat - 55)
  else if 97 ≤ b && b ≤ 102 then some (b.toNat - 87)
  else none

/-- Four hexadecimal digits of a `\u` escape. -/
def hexEscape : Reader Nat := do
  let c ← get
  match c.rest with
  | a :: b :: d :: e :: _ =>
    eat; eat; eat; eat
    match hexValue a, hexValue b, hexValue d, hexValue e with
    | some a, some b, some d, some e => return ((a * 16 + b) * 16 + d) * 16 + e
    | _, _, _, _ => fail "invalid escape"
  | _ =>
    for _ in c.rest do eat
    fail "EOF while parsing a string"

/-- The UTF-8 bytes of a code point. -/
def utf8 (n : Nat) : List UInt8 :=
  (String.singleton (Char.ofNat n)).toUTF8.toList

/-- Step over the byte `b`, which must come next inside a surrogate pair. -/
def expectByte (b : UInt8) : Reader Unit := do
  match ← peek with
  | none => fail "EOF while parsing a string"
  | some c =>
    eat
    if c != b then fail "unexpected end of hex escape"

/-- The bytes a `\u` escape stands for; a high surrogate must be followed by a
`\u` escape of a low one. -/
def unicodeEscape : Reader (List UInt8) := do
  let n ← hexEscape
  if 0xDC00 ≤ n ∧ n ≤ 0xDFFF then fail "lone leading surrogate in hex escape"
  else if n < 0xD800 ∨ n > 0xDBFF then return utf8 n
  else
    expectByte 92
    expectByte 117
    let m ← hexEscape
    if m < 0xDC00 ∨ m > 0xDFFF then fail "lone leading surrogate in hex escape"
    else return utf8 (((n - 0xD800) * 1024 + (m - 0xDC00)) + 0x10000)

/-- The bytes an escape stands for, after its backslash. -/
def escape : Reader (List UInt8) := do
  match ← next with
  | none => fail "EOF while parsing a string"
  | some 34 => return [34]
  | some 92 => return [92]
  | some 47 => return [47]
  | some 98 => return [8]
  | some 102 => return [12]
  | some 110 => return [10]
  | some 114 => return [13]
  | some 116 => return [9]
  | some 117 => unicodeEscape
  | some _ => fail "invalid escape"

/-- The bytes of a string up to its closing quote, after the opening one;
`acc` holds those read so far, reversed. -/
def stringBytes : Nat → List UInt8 → Reader (List UInt8)
  | 0, _ => fail "EOF while parsing a string"
  | fuel + 1, acc => do
    match ← peek with
    | none => fail "EOF while parsing a string"
    | some 34 => eat; return acc.reverse
    | some 92 =>
      eat
      let bs ← escape
      stringBytes fuel (bs.reverse ++ acc)
    | some b =>
      if b < 32 then
        eat
        fail "control character (\\u0000-\\u001F) found while parsing a string"
      else
        eat
        stringBytes fuel (b :: acc)

/-- A string, after its opening quote. -/
def string : Reader String := do
  let bytes ← stringBytes ((← get).rest.length + 1) []
  return (String.fromUTF8? (ByteArray.mk bytes.toArray)).getD ""

/-- Step over a string, after its opening quote, checking only its form. -/
def skipString : Nat → Reader Unit
  | 0 => fail "EOF while parsing a string"
  | fuel + 1 => do
    match ← peek with
    | none => fail "EOF while parsing a string"
    | some 34 => eat
    | some 92 =>
      eat
      match ← next with
      | none => fail "EOF while parsing a string"
      | some 34 | some 92 | some 47 | some 98 | some 102 | some 110 | some 114 | some 116 =>
        skipString fuel
      | some 117 =>
        let _ ← hexEscape
        skipString fuel
      | some _ => fail "invalid escape"
    | some b =>
      if b < 32 then fail "control character (\\u0000-\\u001F) found while parsing a string"
      else
        eat
        skipString fuel

/-! ## Numbers -/

/-- Whether `a * 10 + d` exceeds `bound`. -/
def overflows (a d bound : Nat) : Bool :=
  a ≥ bound / 10 && (a > bound / 10 || d > bound % 10)

/-- The signed 32-bit number nearest `e`. -/
def clamp32 (e : Int) : Int := max (-Int.pow 2 31) (min e (Int.pow 2 31 - 1))

/-- `10^k` as the nearest double. -/
def pow10 (k : Nat) : Float := Float.ofScientific 1 false k

/-- The double `significand · 10^exponent`, computed as the digits as a double
scaled by the nearest double of a power of ten; an infinite result is out of
range. -/
def fromParts (positive : Bool) (significand : Nat) (exponent : Int) : Reader Float := do
  let rec scale : Nat → Float → Int → Reader Float
    | 0, f, _ => pure f
    | fuel + 1, f, e =>
      if e.natAbs ≤ 308 then
        if e ≥ 0 then
          let g := f * pow10 e.natAbs
          if g.isInf then fail "number out of range" else pure g
        else pure (f / pow10 e.natAbs)
      else if f == 0.0 then pure f
      else if e ≥ 0 then fail "number out of range"
      else scale fuel (f / pow10 308) (e + 308)
  let f ← scale (exponent.natAbs / 308 + 2) (Float.ofNat significand) exponent
  return if positive then f else -f

/-- The exponent of a number, after its `e`. -/
def exponentPart (positive : Bool) (significand : Nat) (start : Int) : Reader Float := do
  eat
  let positiveExp ← match ← peek with
    | some 43 => do eat; pure true
    | some 45 => do eat; pure false
    | _ => pure true
  match ← next with
  | none => fail "EOF while parsing a value"
  | some b =>
    if !isDigit b then fail "invalid number"
    else
      let rec more : Nat → Nat → Reader (Option Nat)
        | 0, e => pure (some e)
        | fuel + 1, e => do
          match ← peek with
          | some c =>
            if isDigit c then
              eat
              if overflows e (digit c) (Nat.pow 2 31 - 1) then pure none
              else more fuel (e * 10 + digit c)
            else pure (some e)
          | none => pure (some e)
      match ← more ((← get).rest.length) (digit b) with
      | some e =>
        let final := if positiveExp then clamp32 (start + e) else clamp32 (start - e)
        fromParts positive significand final
      | none =>
        if significand ≠ 0 ∧ positiveExp then fail "number out of range"
        else
          let rec skip : Nat → Reader Unit
            | 0 => pure ()
            | fuel + 1 => do
              match ← peek with
              | some c => if isDigit c then do eat; skip fuel else pure ()
              | none => pure ()
          skip ((← get).rest.length)
          return if positive then 0.0 else -0.0

/-- Skip the digits ahead. -/
def skipDigits : Nat → Reader Unit
  | 0 => pure ()
  | fuel + 1 => do
    match ← peek with
    | some c => if isDigit c then do eat; skipDigits fuel else pure ()
    | none => pure ()

/-- The fraction of a number, after its digits and at its point. -/
def fractionPart (positive : Bool) (significand : Nat) (before : Int) : Reader Float := do
  eat
  let rec go : Nat → Nat → Int → Reader Float
    | 0, s, e => fromParts positive s e
    | fuel + 1, s, e => do
      match ← peek with
      | some c =>
        if isDigit c then
          if overflows s (digit c) wordMax then
            skipDigits ((← get).rest.length)
            match ← peek with
            | some 101 | some 69 => exponentPart positive s (before + e)
            | _ => fromParts positive s (before + e)
          else
            eat
            go fuel (s * 10 + digit c) (e - 1)
        else if e == 0 then failAhead "invalid number"
        else if c == 101 || c == 69 then exponentPart positive s (before + e)
        else fromParts positive s (before + e)
      | none =>
        if e == 0 then failAhead "EOF while parsing a value"
        else fromParts positive s (before + e)
  go ((← get).rest.length + 1) significand 0

/-- A number after its first digits, given as a word `significand`. -/
def afterDigits (positive : Bool) (significand : Nat) : Reader Number := do
  match ← peek with
  | some 46 => return .float (← fractionPart positive significand 0)
  | some 101 | some 69 => return .float (← exponentPart positive significand 0)
  | _ =>
    if positive then return .nat significand
    else if significand == 0 then return .float (-0.0)
    else if significand ≤ Nat.pow 2 63 then return .negative (-(significand : Int))
    else return .float (-(Float.ofNat significand))

/-- A number whose digits outgrew a word: the further digits only scale it. -/
def longInteger (positive : Bool) (significand : Nat) : Reader Number := do
  let rec go : Nat → Int → Reader Float
    | 0, e => fromParts positive significand e
    | fuel + 1, e => do
      match ← peek with
      | some c =>
        if isDigit c then do eat; go fuel (e + 1)
        else if c == 46 then fractionPart positive significand e
        else if c == 101 || c == 69 then exponentPart positive significand e
        else fromParts positive significand e
      | none => fromParts positive significand e
  return .float (← go ((← get).rest.length) 0)

/-- A number, after its sign if it has one. -/
def number (positive : Bool) : Reader Number := do
  match ← next with
  | none => fail "EOF while parsing a value"
  | some 48 =>
    match ← peek with
    | some c => if isDigit c then failAhead "invalid number" else afterDigits positive 0
    | none => afterDigits positive 0
  | some b =>
    if !isDigit b then fail "invalid number"
    else
      let rec go : Nat → Nat → Reader Number
        | 0, s => afterDigits positive s
        | fuel + 1, s => do
          match ← peek with
          | some c =>
            if isDigit c then
              if overflows s (digit c) wordMax then longInteger positive s
              else do eat; go fuel (s * 10 + digit c)
            else afterDigits positive s
          | none => afterDigits positive s
      go ((← get).rest.length) (digit b)

/-- Step over a number, checking only its form, after its sign. -/
def skipNumber : Reader Unit := do
  match ← next with
  | some 48 =>
    if let some c ← peek then
      if isDigit c then failAhead "invalid number"
  | some b =>
    if isDigit b then skipDigits ((← get).rest.length) else fail "invalid number"
  | none => fail "invalid number"
  if (← peek) == some 46 then
    eat
    match ← peek with
    | some c => if isDigit c then skipDigits ((← get).rest.length) else failAhead "invalid number"
    | none => failAhead "invalid number"
  match ← peek with
  | some 101 | some 69 =>
    eat
    match ← peek with
    | some 43 | some 45 => eat
    | _ => pure ()
    match ← next with
    | some c => if isDigit c then skipDigits ((← get).rest.length) else fail "invalid number"
    | none => fail "invalid number"
  | _ => pure ()

/-! ## Values -/

/-- Enter an array or object: one level deeper, refused past the limit. -/
def enter : Reader Unit := do
  let c ← get
  if c.depth ≤ 1 then failAhead "recursion limit exceeded"
  else set { c with depth := c.depth - 1 }

/-- Leave an array or object. -/
def leave : Reader Unit := modify fun c => { c with depth := c.depth + 1 }

/-- After an array's elements: its closing bracket. -/
def endArray : Reader Unit := do
  match ← blank with
  | some 93 => eat
  | some 44 =>
    eat
    match ← blank with
    | some 93 => failAhead "trailing comma"
    | _ => failAhead "trailing characters"
  | some _ => failAhead "trailing characters"
  | none => failAhead "EOF while parsing a list"

/-- After an object's members: its closing brace. -/
def endObject : Reader Unit := do
  match ← blank with
  | some 125 => eat
  | some 44 => failAhead "trailing comma"
  | some _ => failAhead "trailing characters"
  | none => failAhead "EOF while parsing an object"

/-- The colon after a member's key. -/
def colon : Reader Unit := do
  match ← blank with
  | some 58 => eat
  | some _ => failAhead "expected `:`"
  | none => failAhead "EOF while parsing an object"

/-- Whether another element follows in an array (`first` for the first one):
steps over the comma; `false` at the closing bracket. -/
def nextElement (first : Bool) : Reader Bool := do
  let b ← match ← blank with
    | some 93 => return false
    | some 44 => if first then pure (some 44) else do eat; blank
    | some b => if first then pure (some b) else failAhead "expected `,` or `]`"
    | none => failAhead "EOF while parsing a list"
  match b with
  | some 93 => failAhead "trailing comma"
  | some _ => return true
  | none => failAhead "EOF while parsing a value"

/-- The key of the next member of an object (`first` for the first one):
steps over the comma; `none` at the closing brace. -/
def nextKey (first : Bool) : Reader (Option String) := do
  let b ← match ← blank with
    | some 125 => return none
    | some 44 => if first then pure (some 44) else do eat; blank
    | some b => if first then pure (some b) else failAhead "expected `,` or `\x7d`"
    | none => failAhead "EOF while parsing an object"
  match b with
  | some 34 => eat; return some (← string)
  | some 125 => failAhead "trailing comma"
  | some _ => failAhead "key must be a string"
  | none => failAhead "EOF while parsing a value"

/-- Run `body` inside an array or object opened by the byte ahead, then read
its end with `close` even if `body` failed; `body`'s error comes first. -/
def nested {α : Type} (body : Reader α) (close : Reader Unit) : Reader α := do
  enter
  eat
  let r ← attempt body
  leave
  let e ← attempt close
  match r, e with
  | .ok v, .ok () => pure v
  | .error err, _ => throw err
  | _, .error err => throw err

mutual

/-- Any value. -/
def value : Nat → Reader Value
  | 0 => failAhead "recursion limit exceeded"
  | fuel + 1 => do
    match ← blank with
    | none => failAhead "EOF while parsing a value"
    | some b =>
      placed <| match b with
      | 110 => do eat; ident [117, 108, 108]; pure .null
      | 116 => do eat; ident [114, 117, 101]; pure (.bool true)
      | 102 => do eat; ident [97, 108, 115, 101]; pure (.bool false)
      | 45 => do eat; pure (.number (← number false))
      | 34 => do eat; pure (.string (← string))
      | 91 => nested (elements fuel true []) endArray
      | 123 => nested (members fuel true []) endObject
      | b => if isDigit b then do pure (.number (← number true)) else failAhead "expected value"

/-- The elements of an array, after its opening bracket. -/
def elements : Nat → Bool → List Value → Reader Value
  | 0, _, _ => failAhead "recursion limit exceeded"
  | fuel + 1, first, acc => do
    if ← nextElement first then
      let v ← value fuel
      elements fuel false (v :: acc)
    else pure (.array acc.reverse)

/-- The members of an object, after its opening brace; the later of two
members with one key stays. -/
def members : Nat → Bool → List (String × Value) → Reader Value
  | 0, _, _ => failAhead "recursion limit exceeded"
  | fuel + 1, first, acc => do
    match ← nextKey first with
    | none => pure (objectOf acc.reverse)
    | some k =>
      colon
      let v ← value fuel
      members fuel false ((k, v) :: acc)

end

mutual

/-- Step over any value, checking only its form. -/
def skipValue : Nat → Reader Unit
  | 0 => failAhead "recursion limit exceeded"
  | fuel + 1 => do
    match ← blank with
    | none => failAhead "EOF while parsing a value"
    | some 110 => eat; ident [117, 108, 108]
    | some 116 => eat; ident [114, 117, 101]
    | some 102 => eat; ident [97, 108, 115, 101]
    | some 45 => eat; skipNumber
    | some 34 => eat; skipString ((← get).rest.length + 1)
    | some 91 => eat; skipElements fuel true
    | some 123 => eat; skipMembers fuel true
    | some b => if isDigit b then skipNumber else failAhead "expected value"

/-- Step over the elements of an array and its closing bracket. -/
def skipElements : Nat → Bool → Reader Unit
  | 0, _ => failAhead "recursion limit exceeded"
  | fuel + 1, first => do
    match ← blank with
    | some 93 => eat
    | some 44 =>
      if first then failAhead "expected value"
      else do eat; skipValue fuel; skipElements fuel false
    | some _ =>
      if first then do skipValue fuel; skipElements fuel false
      else failAhead "expected `,` or `]`"
    | none => failAhead "EOF while parsing a list"

/-- Step over the members of an object and its closing brace. -/
def skipMembers : Nat → Bool → Reader Unit
  | 0, _ => failAhead "recursion limit exceeded"
  | fuel + 1, first => do
    let member : Reader Unit := do
      match ← blank with
      | some 34 => eat
      | some _ => failAhead "key must be a string"
      | none => failAhead "EOF while parsing an object"
      skipString ((← get).rest.length + 1)
      colon
      skipValue fuel
    match ← blank with
    | some 125 => eat
    | some 44 =>
      if first then do member; skipMembers fuel false
      else do eat; member; skipMembers fuel false
    | some _ =>
      if first then do member; skipMembers fuel false
      else failAhead "expected `,` or `\x7d`"
    | none => failAhead "EOF while parsing an object"

end

/-- Fuel for reading the rest of the text: enough for every byte to open a
value. -/
def fuel : Reader Nat := do return 2 * (← get).rest.length + 2

/-- Any value ahead. -/
def anyValue : Reader Value := do value (← fuel)

/-- Step over any value ahead, checking its form. -/
def ignored : Reader Unit := do skipValue (← fuel)

/-! ## Typed values -/

/-- A scalar ahead, for a decoder that expects `expected`: an array or object
is refused before it is entered. -/
def scalar (expected : String) : Reader Value := do
  match ← blank with
  | none => failAhead "EOF while parsing a value"
  | some 91 => throw (Error.invalidType .sequence expected)
  | some 123 => throw (Error.invalidType .map expected)
  | some b => if startsScalar b then anyValue else failAhead "expected value"

/-- Refuse the value ahead, which is not what a decoder expecting `expected`
reads: a scalar is read first, an array or object is refused unread. -/
def refuse {α : Type} (expected : String) : Reader α := do
  match ← blank with
  | some 91 => throw (Error.invalidType .sequence expected)
  | some 123 => throw (Error.invalidType .map expected)
  | some b =>
    if startsScalar b then do
      let v ← anyValue
      throw (Error.invalidType v.unexpected expected)
    else failAhead "expected value"
  | none => failAhead "expected value"

/-- A value ahead decoded by `f`, which names what it expects; its errors are
placed after the value. -/
def typed {α : Type} (expected : String) (f : Value → Decoded α) : Reader α :=
  placed do
    match f (← scalar expected) with
    | .ok a => pure a
    | .error e => throw e

/-- An unsigned word. -/
def u64 : Reader Nat := typed "u64" Value.toU64

/-- A byte. -/
def u8 : Reader Nat := typed "u8" Value.toU8

/-- A signed 32-bit integer. -/
def i32 : Reader Int := typed "i32" Value.toI32

/-- A string. -/
def str : Reader String := typed "a string" Value.toStr

/-- A boolean. -/
def bool : Reader Bool := typed "a boolean" Value.toBool

/-- `null` as `none`, any other value through `r`. -/
def option {α : Type} (r : Reader α) : Reader (Option α) := do
  if (← blank) == some 110 then
    eat
    ident [117, 108, 108]
    return none
  else some <$> r

/-- An array, each element through `r`. -/
def list {α : Type} (r : Reader α) : Reader (List α) := do
  match ← blank with
  | some 91 =>
    placed <| nested (do
      let rec go : Nat → Bool → List α → Reader (List α)
        | 0, _, acc => pure acc.reverse
        | fuel + 1, first, acc => do
          if ← nextElement first then
            let a ← r
            go fuel false (a :: acc)
          else pure acc.reverse
      go ((← get).rest.length + 1) true []) endArray
  | none => failAhead "EOF while parsing a value"
  | some _ => placed (refuse "a sequence")

/-- How to decode a structure from an object or an array. -/
structure Shape (β γ : Type) where
  /-- What errors name it: `struct Name`. -/
  expected : String
  /-- The fields in their order. -/
  fields : List String
  /-- The decoder of a field's value, updating the partial structure. -/
  field : String → Option (Reader (β → β))
  /-- Whether unknown members are refused. -/
  refuse : Bool := false
  /-- Whether the field at a position may be left out of an array. -/
  optional : Nat → Bool
  /-- The partial structure before any field. -/
  start : β
  /-- The structure, or the first required field missing. -/
  finish : β → Decoded γ

/-- A structure ahead, as `shape` says. -/
def structure_ {β γ : Type} (shape : Shape β γ) : Reader γ := do
  let finish (d : β) : Reader γ := match shape.finish d with
    | .ok g => pure g
    | .error e => throw e
  match ← blank with
  | none => failAhead "EOF while parsing a value"
  | some 123 =>
    placed <| nested (do
      let rec byKey : Nat → Bool → List String → β → Reader β
        | 0, _, _, d => pure d
        | fuel + 1, first, seen, d => do
          match ← nextKey first with
          | none => pure d
          | some k =>
            match shape.field k with
            | some decode =>
              if seen.contains k then throw (Error.duplicateField k)
              colon
              let update ← decode
              byKey fuel false (k :: seen) (update d)
            | none =>
              if shape.refuse then throw (Error.unknownField k shape.fields)
              colon
              ignored
              byKey fuel false seen d
      let d ← byKey ((← get).rest.length + 1) true [] shape.start
      finish d) endObject
  | some 91 =>
    placed <| nested (do
      let rec byPosition : Nat → List String → β → Reader β
        | _, [], d => pure d
        | i, name :: names, d => do
          if ← nextElement (i == 0) then
            match shape.field name with
            | some decode =>
              let update ← decode
              byPosition (i + 1) names (update d)
            | none => byPosition (i + 1) names d
          else if shape.optional i then byPosition (i + 1) names d
          else throw (Error.invalidLength i
            (shape.expected ++ " with " ++ toString shape.fields.length ++ " elements"))
      let d ← byPosition 0 shape.fields shape.start
      finish d) endArray
  | some _ => placed (refuse shape.expected)

/-- Decode a whole text with `r`: nothing but blanks may follow. -/
def decode {α : Type} (r : Reader α) (text : String) : Decoded α :=
  let whole : Reader α := do
    let a ← r
    if (← blank).isSome then failAhead "trailing characters"
    pure a
  match EStateM.run whole ({ rest := text.toUTF8.toList } : Cursor) with
  | EStateM.Result.ok a _ => .ok a
  | EStateM.Result.error e _ => .error e

end Reader

end TaskConsole.Json
