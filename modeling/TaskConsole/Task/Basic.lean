import TaskConsole.Error

/-! Tasks: a command the service runs, with a name, a status numbered 1 to 5 on the
wire and what the service reports; `NewTask.make` builds a create request. -/

namespace TaskConsole

/-- The lifecycle state of a task. -/
inductive TaskStatus where
  | queued | running | completed | failed | canceled
  deriving DecidableEq, Repr

namespace TaskStatus

/-- Every status, in wire order. -/
def all : List TaskStatus := [.queued, .running, .completed, .failed, .canceled]

/-- The wire number of a status. -/
def wire : TaskStatus → Nat
  | .queued => 1 | .running => 2 | .completed => 3 | .failed => 4 | .canceled => 5

/-- The status of a wire number, or the message refusing it. -/
def ofWire (n : Nat) : Except String TaskStatus :=
  match n with
  | 1 => .ok .queued | 2 => .ok .running | 3 => .ok .completed
  | 4 => .ok .failed | 5 => .ok .canceled
  | other => .error ("unknown task status " ++ toString other)

/-- The name shown for a status. -/
def label : TaskStatus → String
  | .queued => "Queued" | .running => "Running" | .completed => "Completed"
  | .failed => "Failed" | .canceled => "Canceled"

/-- Queued and running tasks are active. -/
def isActive : TaskStatus → Bool
  | .queued | .running => true
  | _ => false

/-- The status after `s` in wire order, none after the last. -/
def next? (s : TaskStatus) : Option TaskStatus :=
  match s with
  | .queued => some .running | .running => some .completed | .completed => some .failed
  | .failed => some .canceled | .canceled => none

theorem ofWire_wire (s : TaskStatus) : ofWire s.wire = .ok s := by
  cases s <;> rfl

end TaskStatus

/-- A task as the service lists it. Times are Unix seconds, 0 when unset. -/
structure Task where
  id : Nat
  name : String
  command : String
  status : TaskStatus
  reason : String := ""
  exitCode : Int := 0
  startTime : Nat := 0
  endTime : Nat := 0
  deriving DecidableEq, Repr

/-- Whether the task is active. -/
def Task.isActive (t : Task) : Bool := t.status.isActive

/-- A live change of one task's status, with the exit code and reason when the
service sent them. -/
structure StatusUpdate where
  task : Nat
  status : TaskStatus
  exitCode : Option Int := none
  reason : Option String := none
  deriving DecidableEq, Repr

/-- One page of the task list, with the number of tasks on all pages. -/
structure TaskPage where
  tasks : List Task := []
  total : Nat := 0
  deriving DecidableEq, Repr

/-- A task list request: where the page starts, how long it is, and which
status it is limited to. -/
structure ListQuery where
  offset : Nat
  limit : Nat
  status : Option TaskStatus
  deriving DecidableEq, Repr

/-- The body of a create request. -/
structure NewTask where
  name : String
  command : String
  deriving DecidableEq, Repr

/-- A create request's body from what the user typed: both fields without their
blank ends; a field left empty is refused, the name first. -/
def NewTask.make (name command : String) : Except ActionError NewTask :=
  let name := Text.trim name
  let command := Text.trim command
  if name.isEmpty then .error (.invalid "Task name is required")
  else if command.isEmpty then .error (.invalid "Command is required")
  else .ok ⟨name, command⟩

end TaskConsole
