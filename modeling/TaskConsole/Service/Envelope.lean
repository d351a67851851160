import TaskConsole.Json.Reader
import TaskConsole.Text.Blank
import TaskConsole.Error

/-! Response envelopes: `decodeEnvelope` turns a status and a body into the payload, or
a failure for a bad status, an undecodable body or an envelope without `success`. -/

namespace TaskConsole

open Json

/-- Why a response could not be turned into a payload. -/
inductive Failure where
  | status (code : Nat) (message : String)
  | rejected (message : String)
  | decode (message : String)
  deriving DecidableEq, Repr

namespace Failure

/-- The failure as a load failure. -/
def toLoadError : Failure → LoadError
  | .status code m => .status code m
  | .rejected m => .rejected m
  | .decode m => .decode m

/-- The failure as an action failure: an undecodable response is a failed
request. -/
def toActionError : Failure → ActionError
  | .status code m => .status code m
  | .rejected m => .rejected m
  | .decode m => .transport m

end Failure

/-- The envelope around a payload of type `α`. -/
structure Envelope (α : Type) where
  success : Bool := false
  data : Option α := none
  error : String := ""
  message : String := ""

/-- The payload of a log read: the lines and the log's length. -/
structure LogsPayload where
  logs : List String := []
  totalLines : Nat := 0
  deriving DecidableEq, Repr

namespace Json.Reader

/-- The reader of the envelope member named `k`, with `payload` reading the
payload. -/
def envelopeField {α : Type} (payload : Reader α) : String → Option (Reader (Envelope α → Envelope α))
  | "success" => some do let b ← bool; pure fun e => { e with success := b }
  | "data" => some do let d ← option payload; pure fun e => { e with data := d }
  | "error" => some do let s ← str; pure fun e => { e with error := s }
  | "message" => some do let s ← str; pure fun e => { e with message := s }
  | _ => none

/-- An envelope whose payload `payload` reads. -/
def envelope {α : Type} (payload : Reader α) : Reader (Envelope α) :=
  structure_ {
    expected := "struct Envelope"
    fields := ["success", "data", "error", "message"]
    field := envelopeField payload
    optional := fun _ => true
    start := {}
    finish := .ok }

/-- The reader of the log payload member named `k`; a `null` line list is
empty. -/
def logsField : String → Option (Reader (LogsPayload → LogsPayload))
  | "logs" => some do let ls ← option (list str); pure fun p => { p with logs := ls.getD [] }
  | "total_lines" => some do let n ← u64; pure fun p => { p with totalLines := n }
  | _ => none

/-- A log payload. -/
def logsPayload : Reader LogsPayload :=
  structure_ {
    expected := "struct LogsPayload"
    fields := ["logs", "total_lines"]
    field := logsField
    optional := fun _ => true
    start := {}
    finish := .ok }

end Json.Reader

/-- Whether a status is a success: `200..=299`. -/
def isSuccess (status : Nat) : Bool := 200 ≤ status && status ≤ 299

/-- The payload of a response with `status` and `body`, read by `payload`. -/
def decodeEnvelope {α : Type} (payload : Reader α) (status : Nat) (body : String) :
    Except Failure (Option α) :=
  let parsed := Reader.decode (Reader.envelope payload) body
  if !isSuccess status then
    let message := match parsed with
      | .ok env => if env.error.isEmpty then env.message else env.error
      | .error _ => Text.trim body
    .error (.status status message)
  else
    match parsed with
    | .error e => .error (.decode e.text)
    | .ok env =>
      if !env.success then
        .error (.rejected (if env.error.isEmpty then "request was not successful" else env.error))
      else .ok env.data

end TaskConsole
