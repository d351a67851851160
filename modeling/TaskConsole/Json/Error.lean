import TaskConsole.Json.Value

/-! Decoding errors: a message and, while reading text, the line and byte column where
the reader stood. -/

namespace TaskConsole.Json

/-- A decoding failure: its message, and the line and column if it has a place. -/
structure Error where
  message : String
  position : Option (Nat × Nat) := none
  deriving Repr, Inhabited

/-- The full text of an error: its message, then its place if it has one. -/
def Error.text (e : Error) : String :=
  match e.position with
  | none => e.message
  | some (line, column) =>
    e.message ++ " at line " ++ toString line ++ " column " ++ toString column

namespace Error

/-- A value of another kind than expected. -/
def invalidType (found : Unexpected) (expected : String) : Error :=
  { message := "invalid type: " ++ found.describe ++ ", expected " ++ expected }

/-- A value of the right kind but out of range. -/
def invalidValue (found : Unexpected) (expected : String) : Error :=
  { message := "invalid value: " ++ found.describe ++ ", expected " ++ expected }

/-- A sequence or map with the wrong number of elements. -/
def invalidLength (length : Nat) (expected : String) : Error :=
  { message := "invalid length " ++ toString length ++ ", expected " ++ expected }

/-- A required field that is absent. -/
def missingField (name : String) : Error :=
  { message := "missing field `" ++ name ++ "`" }

/-- A field given twice. -/
def duplicateField (name : String) : Error :=
  { message := "duplicate field `" ++ name ++ "`" }

/-- Names in backquotes, as an error lists the alternatives. -/
def oneOf : List String → String
  | [] => ""
  | [a] => "`" ++ a ++ "`"
  | [a, b] => "`" ++ a ++ "` or `" ++ b ++ "`"
  | names => "one of " ++ ", ".intercalate (names.map fun n => "`" ++ n ++ "`")

/-- A field that the decoded structure does not have. -/
def unknownField (name : String) (expected : List String) : Error :=
  match expected with
  | [] => { message := "unknown field `" ++ name ++ "`, there are no fields" }
  | _ => { message := "unknown field `" ++ name ++ "`, expected " ++ oneOf expected }

/-- A message of the decoded type's own. -/
def custom (message : String) : Error := { message }

/-- The error placed at `line`, `column` unless it already has a place. -/
def placeAt (e : Error) (line column : Nat) : Error :=
  match e.position with
  | some _ => e
  | none => { e with position := some (line, column) }

end Error

end TaskConsole.Json
