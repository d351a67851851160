import TaskConsole.Json.Value

/-! Compact JSON text of a value, with short escapes for the common controls and
`\u00xx` for the others. -/

namespace TaskConsole.Json

/-- Four lower-case hexadecimal digits of a number below `2^16`. -/
def hex4 (n : Nat) : List Char :=
  let ds := Nat.toDigits 16 n
  List.replicate (4 - ds.length) '0' ++ ds

/-- One character of a JSON string, escaped. -/
def escapeChar (c : Char) : List Char :=
  match c with
  | '"' => ['\\', '"']
  | '\\' => ['\\', '\\']
  | '\x08' => ['\\', 'b']
  | '\x0c' => ['\\', 'f']
  | '\n' => ['\\', 'n']
  | '\r' => ['\\', 'r']
  | '\t' => ['\\', 't']
  | c => if c.toNat < 0x20 then ['\\', 'u'] ++ hex4 c.toNat else [c]

/-- A JSON string literal. -/
def quoteString (s : String) : String :=
  String.ofList ('"' :: (s.toList.flatMap escapeChar ++ ['"']))

/-- The text of a number. -/
def Number.write : Number → String
  | .nat n => toString n
  | .negative n => toString n
  | .float f => if f.isNaN || f.isInf then "null" else floatText f

mutual

/-- Compact JSON text of a value. -/
def Value.write : Value → String
  | .null => "null"
  | .bool b => if b then "true" else "false"
  | .number n => n.write
  | .string s => quoteString s
  | .array items => "[" ++ writeItems items ++ "]"
  | .object fields => "\x7b" ++ writeMembers fields ++ "\x7d"

/-- Array elements, separated by commas. -/
def writeItems : List Value → String
  | [] => ""
  | [v] => v.write
  | v :: vs => v.write ++ "," ++ writeItems vs

/-- Object members, separated by commas. -/
def writeMembers : List (String × Value) → String
  | [] => ""
  | [(k, v)] => quoteString k ++ ":" ++ v.write
  | (k, v) :: rest => quoteString k ++ ":" ++ v.write ++ "," ++ writeMembers rest

end

end TaskConsole.Json
