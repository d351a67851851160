import TaskConsole.Task.Json
import TaskConsole.Json.Reader

/-! Tasks and task pages read straight from JSON text, so that members are checked in
the order they come and an error carries its place. -/

namespace TaskConsole

open Json

namespace Json.Reader

/-- A status: a byte naming one of the five wire numbers. -/
def taskStatus : Reader TaskStatus := do
  let n ← u8
  match TaskStatus.ofWire n with
  | .ok s => pure s
  | .error m => throw (.custom m)

/-- The reader of the task member named `k`. -/
def taskField : String → Option (Reader (TaskDraft → TaskDraft))
  | "id" => some do let x ← u64; pure fun d => { d with id := some x }
  | "name" => some do let x ← str; pure fun d => { d with name := some x }
  | "command" => some do let x ← str; pure fun d => { d with command := some x }
  | "status" => some do let x ← taskStatus; pure fun d => { d with status := some x }
  | "reason" => some do let x ← str; pure fun d => { d with reason := some x }
  | "exit_code" => some do let x ← i32; pure fun d => { d with exitCode := some x }
  | "start_time" => some do let x ← u64; pure fun d => { d with startTime := some x }
  | "end_time" => some do let x ← u64; pure fun d => { d with endTime := some x }
  | _ => none

/-- How a task is read: its first four members are required. -/
def taskShape : Shape TaskDraft Task where
  expected := "struct Task"
  fields := TaskDraft.fieldNames
  field := taskField
  optional i := 4 ≤ i
  start := {}
  finish := TaskDraft.finish

/-- A task. -/
def task : Reader Task := structure_ taskShape

/-- The reader of the page member named `k`; a `null` task list is empty. -/
def pageField : String → Option (Reader (TaskPage → TaskPage))
  | "tasks" => some do
      let ts ← option (list task)
      pure fun p => { p with tasks := ts.getD [] }
  | "total" => some do let n ← u64; pure fun p => { p with total := n }
  | _ => none

/-- How a task page is read: both members are optional. -/
def pageShape : Shape TaskPage TaskPage where
  expected := "struct TaskPage"
  fields := ["tasks", "total"]
  field := pageField
  optional _ := true
  start := {}
  finish := .ok

/-- A task page. -/
def taskPage : Reader TaskPage := structure_ pageShape

end Json.Reader

/-- A task from JSON text. -/
def Task.ofText (text : String) : Decoded Task := Reader.decode Reader.task text

/-- A task page from JSON text. -/
def TaskPage.ofText (text : String) : Decoded TaskPage := Reader.decode Reader.taskPage text

end TaskConsole
