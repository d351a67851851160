import TaskConsole.Task.Basic
import TaskConsole.Json.OfValue
import TaskConsole.Json.Write

/-! Tasks, statuses and task pages decoded from JSON values as the service sends them,
as objects or as arrays of their fields. -/

namespace TaskConsole

open Json

/-- A status from its wire number. -/
def TaskStatus.ofJson (v : Value) : Decoded TaskStatus := do
  let n ← v.toU8
  match TaskStatus.ofWire n with
  | .ok s => pure s
  | .error m => throw (.custom m)

/-- A task under construction: the members decoded so far. -/
structure TaskDraft where
  id : Option Nat := none
  name : Option String := none
  command : Option String := none
  status : Option TaskStatus := none
  reason : Option String := none
  exitCode : Option Int := none
  startTime : Option Nat := none
  endTime : Option Nat := none

namespace TaskDraft

/-- The task a complete draft describes, or the first required member missing. -/
def finish (d : TaskDraft) : Decoded Task :=
  match d.id, d.name, d.command, d.status with
  | some id, some name, some command, some status =>
    .ok { id, name, command, status, reason := d.reason.getD "", exitCode := d.exitCode.getD 0,
          startTime := d.startTime.getD 0, endTime := d.endTime.getD 0 }
  | none, _, _, _ => .error (.missingField "id")
  | _, none, _, _ => .error (.missingField "name")
  | _, _, none, _ => .error (.missingField "command")
  | _, _, _, none => .error (.missingField "status")

/-- The decoder of the task member named `k`. -/
def field : String → Option (Value → Decoded (TaskDraft → TaskDraft))
  | "id" => some fun v => do let x ← v.toU64; pure fun d => { d with id := some x }
  | "name" => some fun v => do let x ← v.toStr; pure fun d => { d with name := some x }
  | "command" => some fun v => do let x ← v.toStr; pure fun d => { d with command := some x }
  | "status" => some fun v => do
      let x ← TaskStatus.ofJson v; pure fun d => { d with status := some x }
  | "reason" => some fun v => do let x ← v.toStr; pure fun d => { d with reason := some x }
  | "exit_code" => some fun v => do let x ← v.toI32; pure fun d => { d with exitCode := some x }
  | "start_time" => some fun v => do
      let x ← v.toU64; pure fun d => { d with startTime := some x }
  | "end_time" => some fun v => do let x ← v.toU64; pure fun d => { d with endTime := some x }
  | _ => none

/-- The task members in their order. -/
def fieldNames : List String :=
  ["id", "name", "command", "status", "reason", "exit_code", "start_time", "end_time"]

/-- Members given by position: each present one decoded; of the absent ones the
first four are missing, the others take their defaults. -/
def ofItems (items : List Value) : Decoded TaskDraft := do
  let rec go : Nat → List String → List Value → TaskDraft → Decoded TaskDraft
    | i, name :: names, v :: vs, d => do
      match field name with
      | some decode => let update ← decode v; go (i + 1) names vs (update d)
      | none => go (i + 1) names vs d
    | i, _ :: _, [], d =>
      if i < 4 then .error (.invalidLength i "struct Task with 8 elements") else .ok d
    | _, [], _, d => .ok d
  let d ← go 0 fieldNames items {}
  if items.length > fieldNames.length then
    .error (.invalidLength items.length "fewer elements in array")
  else .ok d

end TaskDraft

/-- A task from a JSON object (or array of its members). -/
def Task.ofJson : Value → Decoded Task
  | .object ms => do
    let d ← Value.members TaskDraft.field none ms [] {}
    d.finish
  | .array items => do
    let d ← TaskDraft.ofItems items
    d.finish
  | v => .error (.invalidType v.unexpected "struct Task")

/-- A page's task list: `null` means no tasks. -/
def TaskPage.tasksOfJson : Value → Decoded (List Task)
  | .null => .ok []
  | v => v.toList Task.ofJson

/-- The decoder of the page member named `k`. -/
def TaskPage.field : String → Option (Value → Decoded (TaskPage → TaskPage))
  | "tasks" => some fun v => do let ts ← TaskPage.tasksOfJson v; pure fun p => { p with tasks := ts }
  | "total" => some fun v => do let n ← v.toU64; pure fun p => { p with total := n }
  | _ => none

/-- A task page from a JSON object (or array of its members). -/
def TaskPage.ofJson : Value → Decoded TaskPage
  | .object ms => Value.members TaskPage.field none ms [] {}
  | .array items => do
    let p ← match items with
      | [] => pure {}
      | [ts] => do let ts ← TaskPage.tasksOfJson ts; pure { tasks := ts }
      | ts :: n :: _ => do
        let ts ← TaskPage.tasksOfJson ts
        let n ← n.toU64
        pure { tasks := ts, total := n }
    if items.length > 2 then .error (.invalidLength items.length "fewer elements in array")
    else .ok p
  | v => .error (.invalidType v.unexpected "struct TaskPage")

/-- The body of a create request. -/
def NewTask.toJson (t : NewTask) : Value :=
  .object [("name", .string t.name), ("command", .string t.command)]

/-- A status as written: its wire number. -/
def TaskStatus.toJson (s : TaskStatus) : Value := .number (.nat s.wire)

end TaskConsole
