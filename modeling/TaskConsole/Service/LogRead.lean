import TaskConsole.Service.Endpoint
import TaskConsole.Service.Envelope
import TaskConsole.Log.Chunk

/-! Reading log lines: bounds are checked before any request, the exchange with the
service is a parameter, and the answer is numbered by `LogChunk.ofTexts`. -/

namespace TaskConsole

/-- Whether bounds name a read: the tail (`0, 0`), or lines `first..last` from
line 1 on that do not end before they start. -/
def readBounds (first last : Nat) : Bool :=
  !((first == 0) != (last == 0) || (0 < first && last < first))

/-- One GET exchange with the service: the status and body of its response, or
the failure of the transport, as a load failure. -/
abbrev Exchange := Url → Except LoadError (Nat × String)

/-- Read lines `first..last` of `task`'s log (its tail for `0, 0`) through
`exchange`. A URL that cannot be formed is a transport failure, and a response
without a payload a refusal. -/
def fetchLogRange (exchange : Exchange) (base : Url) (task first last : Nat) :
    Checked (Except LoadError LogChunk) := do
  if !readBounds first last then return .error (.invalidRange first last)
  match ← logsUrl base task first last with
  | .error e => return .error (.transport ("invalid URL: " ++ e.message))
  | .ok url =>
    match exchange url with
    | .error e => return .error e
    | .ok (status, body) =>
      match decodeEnvelope Json.Reader.logsPayload status body with
      | .error f => return .error f.toLoadError
      | .ok none => return .error (.rejected "No logs data found")
      | .ok (some payload) =>
        return .ok (← LogChunk.ofTexts first last payload.logs payload.totalLines)

end TaskConsole
