import TaskConsole.Url.Parse
import TaskConsole.Task.Basic
import TaskConsole.Word
import TaskConsole.Error

/-! Service endpoints: the base URL's path ends with a slash and each endpoint is a
relative reference joined to it; a one-line log range asks for one line more. -/

namespace TaskConsole

open Url

/-- The base with a path ending in a slash. An opaque path cannot start with
a slash, which is written `%2F` there instead: an empty opaque path becomes
`%2F`. -/
def normalizeBase (u : Url) : Url :=
  if u.path.endsWith "/" then u
  else if u.cannotBeABase && u.path.isEmpty then { u with path := "%2F" }
  else { u with path := u.path ++ "/" }

/-- The service's base URL from its text; an unreadable URL is a transport
failure. -/
def serviceBase (text : String) : Except LoadError Url :=
  match Url.parse text with
  | .ok u => .ok (normalizeBase u)
  | .error e => .error (.transport ("invalid URL: " ++ e.message))

/-- The URL of an endpoint below the base. -/
def endpointUrl (base : Url) (path : String) : Except ParseError Url :=
  base.join (String.ofList (path.toList.dropWhile (· == '/')))

/-- A character of a form-encoded query value. -/
def formChar (c : Char) : List Char :=
  if c == ' ' then ['+']
  else if c.isAlphanum || "*-._".toList.contains c then [c]
  else (utf8Bytes c).flatMap percentByte

/-- A text form-encoded for a query pair. -/
def formEncode (s : String) : String := String.ofList (s.toList.flatMap formChar)

/-- The URL with name–value pairs appended to its query. -/
def appendPairs (u : Url) (pairs : List (String × String)) : Url :=
  let encoded := "&".intercalate (pairs.map fun (k, v) => formEncode k ++ "=" ++ formEncode v)
  match u.query with
  | some q => { u with query := some (if q.isEmpty then encoded else q ++ "&" ++ encoded) }
  | none => { u with query := some encoded }

/-- The URL of the live event stream. -/
def eventsUrl (base : Url) : Except ParseError Url := endpointUrl base "events"

/-- The URL of a task list page. -/
def tasksUrl (base : Url) (q : ListQuery) : Except ParseError Url := do
  let url ← endpointUrl base "tasks"
  let status := match q.status with
    | some s => [("status", toString s.wire)]
    | none => []
  return appendPairs url ([("offset", toString q.offset), ("limit", toString q.limit)] ++ status)

/-- The URL of a task's log lines `from..to`; with both positive the range is
asked for, one line longer if it would be empty. The widening may overflow. -/
def logsUrl (base : Url) (task first last : Nat) : Checked (Except ParseError Url) :=
  match endpointUrl base ("tasks/" ++ toString task ++ "/logs") with
  | .error e => pure (.error e)
  | .ok url =>
    if first > 0 ∧ last > 0 then do
      let last ← if last ≤ first then Word.add first 1 else pure last
      pure (.ok (appendPairs url [("from", toString first), ("to", toString last)]))
    else pure (.ok url)

end TaskConsole
