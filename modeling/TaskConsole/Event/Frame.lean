import TaskConsole.Json.Reader
import TaskConsole.Task.Json
import TaskConsole.Input.Range
import TaskConsole.Log.Line
import TaskConsole.Error

/-! Frames of the live event stream: `decodeFrame` reads an event's type and data as
the connection, a keepalive, a status change or a log line, or a decode error. -/

namespace TaskConsole

open Json

/-- What the live event channel delivers to subscribers. -/
inductive LiveEvent where
  | connected
  | status (update : StatusUpdate)
  | log (task : Nat) (line : LogLine)
  | disconnected (error : StreamError)
  deriving DecidableEq, Repr

/-- A number as a frame sends it: a number, or a text holding one. -/
inductive Numeric where
  | number (n : Nat)
  | text (s : String)
  deriving DecidableEq, Repr

/-- The number a frame's number stands for: a text is trimmed and read as a
decimal word. -/
def Numeric.value : Numeric → Option Nat
  | .number n => some n
  | .text s => Input.parseWord (Text.trim s)

/-- The members of a frame; all are optional. -/
structure Frame where
  ping : Option Value := none
  kind : Option Numeric := none
  task : Option Numeric := none
  value : Option Value := none

/-- The value of a status change. -/
structure StatusValue where
  status : Option TaskStatus := none
  exitCode : Option Int := none
  reason : Option String := none

/-- The value of a log line. -/
structure LogValue where
  line : Option String := none
  number : Option Nat := none

namespace Json.Reader

/-- A number or a text: a whole word or a string, anything else refused. -/
def numeric : Reader Numeric := do
  match ← anyValue with
  | .number (.nat n) => pure (.number n)
  | .string s => pure (.text s)
  | _ => throw (.custom "data did not match any variant of untagged enum Numeric")

/-- The reader of the frame member named `k`. -/
def frameField : String → Option (Reader (Frame → Frame))
  | "ping" => some do let v ← option anyValue; pure fun f => { f with ping := v }
  | "event" => some do let v ← option numeric; pure fun f => { f with kind := v }
  | "task_id" => some do let v ← option numeric; pure fun f => { f with task := v }
  | "value" => some do let v ← option anyValue; pure fun f => { f with value := v }
  | _ => none

/-- How a frame is read. -/
def frameShape : Shape Frame Frame where
  expected := "struct Frame"
  fields := ["ping", "event", "task_id", "value"]
  field := frameField
  optional _ := true
  start := {}
  finish := .ok

end Json.Reader

namespace StatusValue

/-- The decoder of the status value member named `k`. -/
def field : String → Option (Value → Decoded (StatusValue → StatusValue))
  | "status" => some fun v => do let s ← TaskStatus.ofJson v; pure fun d => { d with status := s }
  | "exit_code" => some fun v => do
      let c ← v.toOption Value.toI32; pure fun d => { d with exitCode := c }
  | "reason" => some fun v => do
      let r ← v.toOption Value.toStr; pure fun d => { d with reason := r }
  | _ => none

/-- The status change a value describes for `task`; an empty reason is none. -/
def finish (task : Nat) (d : StatusValue) : Decoded StatusUpdate :=
  match d.status with
  | some status =>
    .ok { task, status, exitCode := d.exitCode, reason := d.reason.filter (!·.isEmpty) }
  | none => .error (.missingField "status")

/-- The status change of `task` from a JSON value. -/
def ofJson (task : Nat) : Value → Decoded StatusUpdate
  | .object ms => do finish task (← Value.members field none ms [] {})
  | .array vs => do
    finish task (← Value.positional field (0 < ·) "struct StatusValue with 3 elements"
      ["status", "exit_code", "reason"] vs {})
  | v => .error (.invalidType v.unexpected "struct StatusValue")

end StatusValue

namespace LogValue

/-- The decoder of the log value member named `k`. -/
def field : String → Option (Value → Decoded (LogValue → LogValue))
  | "line" => some fun v => do let s ← v.toStr; pure fun d => { d with line := some s }
  | "line_number" => some fun v => do
      let n ← v.toU64; pure fun d => { d with number := some n }
  | _ => none

/-- The numbered line a value describes, or its first missing member. -/
def finish (d : LogValue) : Decoded LogLine :=
  match d.line, d.number with
  | some text, some number => .ok { number, text }
  | none, _ => .error (.missingField "line")
  | _, none => .error (.missingField "line_number")

/-- A numbered log line from a JSON value. -/
def ofJson : Value → Decoded LogLine
  | .object ms => do finish (← Value.members field none ms [] {})
  | .array vs => do
    finish (← Value.positional field (fun _ => false) "struct LogValue with 2 elements"
      ["line", "line_number"] vs {})
  | v => .error (.invalidType v.unexpected "struct LogValue")

end LogValue

/-- A decoding result as a stream failure. -/
def streamDecoded {α : Type} : Decoded α → Except StreamError α
  | .ok a => .ok a
  | .error e => .error (.decode e.text)

/-- The text with every leading `data: ` removed. -/
def stripDataPrefix (s : String) : String :=
  let p := "data: ".toList
  let rec go : Nat → List Char → List Char
    | 0, cs => cs
    | fuel + 1, cs => if p.isPrefixOf cs then go fuel (cs.drop p.length) else cs
  let cs := s.toList
  String.ofList (go cs.length cs)

/-- The event a frame of the live stream carries for subscribers, if any. -/
def decodeFrame (eventType data : String) : Except StreamError (Option LiveEvent) := do
  if eventType == "connect" then return some .connected
  if !(eventType == "" || eventType == "message") then return none
  let raw := stripDataPrefix (Text.trim data)
  let frame ← streamDecoded (Reader.decode (Reader.structure_ Reader.frameShape) raw)
  if frame.ping.isSome then return none
  let some kind := frame.kind.bind Numeric.value
    | throw (.decode "missing event type")
  let some task := frame.task.bind Numeric.value
    | throw (.decode "missing task_id")
  let some value := frame.value
    | throw (.decode "missing value")
  if kind == 1 then
    return some (.status (← streamDecoded (StatusValue.ofJson task value)))
  else if kind == 2 then
    let line ← streamDecoded (LogValue.ofJson value)
    if line.number == 0 then throw (.decode "line_number must be at least 1")
    return some (.log task line)
  else throw (.decode ("unknown event type " ++ toString kind))

end TaskConsole
