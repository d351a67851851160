import TaskConsole.TaskList
import TaskConsole.Window.Stream
import TaskConsole.Window.Load
import TaskConsole.Event.Frame
import TaskConsole.Input.Field
import TaskConsole.Config.Settings

/-! The console's state: the task list or one task's log window, read in one of three
modes. Whatever needs the service is queued as a `Command` and answered by a `Reply`. -/

namespace TaskConsole

open Input

/-- Which screen is shown. -/
inductive View where
  | tasks
  | logs
  deriving DecidableEq, Repr

/-- What the keys are for. -/
inductive Mode where
  | normal
  | createTask
  | rangeInput
  deriving DecidableEq, Repr

/-- The field of the create form that has the focus. -/
inductive FormField where
  | name
  | command
  deriving DecidableEq, Repr

/-- The other field of the create form. -/
def FormField.other : FormField → FormField
  | .name => .command
  | .command => .name

/-- The state of the live event stream, with the reason it was lost. -/
inductive Connection where
  | connecting
  | connected
  | disconnected (reason : String)
  deriving DecidableEq, Repr

/-- Work the console hands to the service. -/
inductive Command where
  | fetchTasks (request : ListRequest)
  | fetchLogs (ticket : LoadTicket)
  | createTask (task : NewTask)
  | cancelTask (task : Nat)
  | downloadLogs (task : Nat)
  deriving DecidableEq, Repr

/-- An answer of the service, or an event of the live stream. -/
inductive Reply where
  | tasksLoaded (seq : Nat) (result : Except LoadError TaskPage)
  | logsLoaded (ticket : LoadTicket) (result : Except LoadError LogChunk)
  | taskCreated (result : Except ActionError Task)
  | taskCancelled (task : Nat) (result : Except ActionError Unit)
  | logsDownloaded (task : Nat) (result : Except ActionError String)
  | live (event : LiveEvent)

/-- Everything the console shows and remembers. -/
structure Console where
  tasks : TaskList
  window : Window
  view : View := .tasks
  mode : Mode := .normal
  nameField : TextField := {}
  commandField : TextField := {}
  formField : FormField := .name
  rangeField : TextField := {}
  /-- A message that the next key dismisses. -/
  alert : Option String := none
  /-- The outcome of the last action, shown until the next one. -/
  status : Option String := none
  connection : Connection := .connecting
  levelColors : Bool := true
  showHelp : Bool := false
  quit : Bool := false
  /-- Commands not yet drained, oldest first. -/
  queue : List Command := []

namespace Console

/-- Queue a command. -/
def issue (c : Console) (cmd : Command) : Console :=
  { c with queue := c.queue ++ [cmd] }

/-- Queue a list fetch, if there is one. -/
def issueList (c : Console) : Option ListRequest → Console
  | some r => c.issue (.fetchTasks r)
  | none => c

/-- Queue a log load, if there is one. -/
def issueLoad (c : Console) : Option LoadTicket → Console
  | some t => c.issue (.fetchLogs t)
  | none => c

/-- The queued commands, oldest first, and the console without them. -/
def drain (c : Console) : List Command × Console :=
  (c.queue, { c with queue := [] })

/-- Fetch the current page of tasks again. -/
def refreshTasks (c : Console) : Checked Console := do
  let (tasks, r) ← c.tasks.refresh
  pure ({ c with tasks }.issue (.fetchTasks r))

/-- A console for the given settings, on the task list, with the first page
of tasks asked for. -/
def start (s : Settings) : Checked Console :=
  refreshTasks { tasks := TaskList.new s.pageSize, window := Window.new s.viewport }

end Console

end TaskConsole
