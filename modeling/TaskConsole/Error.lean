import TaskConsole.Text.Blank

/-! Failures of loads, of the live stream and of the user's actions, each with one
`message` function worded as the user sees it. -/

namespace TaskConsole

/-- The server's explanation appended to a status line: the message without its
blank ends, in parentheses after a space, or nothing when it is blank. -/
def statusReason (message : String) : String :=
  match Text.trim message with
  | "" => ""
  | text => " (" ++ text ++ ")"

/-- The text of a failed status line. -/
def statusText (status : Nat) (message : String) : String :=
  "HTTP error! status: " ++ toString status ++ statusReason message

/-- A failure to fetch a task page or a range of log lines. -/
inductive LoadError where
  /-- The request did not complete. -/
  | transport (message : String)
  /-- The server answered with a failing status and a message. -/
  | status (code : Nat) (message : String)
  /-- The server answered but refused, with its reason. -/
  | rejected (message : String)
  /-- A range was asked for and no line came back. -/
  | noData
  /-- A range that does not start at 1 or later, or ends before it starts. -/
  | invalidRange (first last : Nat)
  /-- The answer could not be read. -/
  | decode (message : String)
  deriving DecidableEq, Repr

/-- The user-visible text of a load failure. -/
def LoadError.message : LoadError → String
  | .transport m => "request failed: " ++ m
  | .status code m => statusText code m
  | .rejected m => m
  | .noData => "no log data returned"
  | .invalidRange a b => "invalid line range " ++ toString a ++ "-" ++ toString b
  | .decode m => "malformed response: " ++ m

/-- A failure of the live event channel. -/
inductive StreamError where
  | transport (message : String)
  | closed
  | decode (message : String)
  deriving DecidableEq, Repr

/-- The text of an event channel failure. -/
def StreamError.message : StreamError → String
  | .transport m => "event stream transport error: " ++ m
  | .closed => "event stream closed by server"
  | .decode m => "undecodable event: " ++ m

/-- A failure of an action the user asked for. -/
inductive ActionError where
  | transport (message : String)
  | status (code : Nat) (message : String)
  | rejected (message : String)
  /-- The action's input was refused before any request. -/
  | invalid (message : String)
  /-- Writing the result to a file failed. -/
  | io (message : String)
  deriving DecidableEq, Repr

/-- The user-visible text of an action failure. -/
def ActionError.message : ActionError → String
  | .transport m => "request failed: " ++ m
  | .status code m => statusText code m
  | .rejected m => m
  | .invalid m => m
  | .io m => "could not write file: " ++ m

end TaskConsole
