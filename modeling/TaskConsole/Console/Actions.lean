import TaskConsole.Console.Basic

/-! The operations behind the keys and the handling of the service's replies: success
is reported in the status line, failure in an alert. -/

namespace TaskConsole

namespace Console

/-- The lines one turn of the mouse wheel scrolls. -/
def wheelLines : Int := 3

/-- Flush streamed lines into the log window when some are waiting. -/
def onFrame (c : Console) : Checked Console := do
  if c.window.flushDue then
    let (window, _) ← c.window.flush
    pure { c with window }
  else pure c

/-- Take a live event: a connection change, a task's new status, or a
streamed log line. -/
def onLive (c : Console) : LiveEvent → Checked Console
  | .connected => pure { c with connection := .connected }
  | .disconnected e => pure { c with connection := .disconnected e.message }
  | .status u => do
    let (tasks, r) ← c.tasks.applyStatus u
    pure ({ c with tasks }.issueList r)
  | .log task line => do
    let (window, _) ← c.window.appendStreamed task line
    pure { c with window }

/-- Forget what the create form holds and focus its name field. -/
def resetForm (c : Console) : Console :=
  { c with nameField := {}, commandField := {}, formField := .name }

/-- Take a reply of the service. -/
def onReply (c : Console) : Reply → Checked Console
  | .tasksLoaded seq result => pure { c with tasks := (c.tasks.applyPage seq result).1 }
  | .logsLoaded ticket result => do
    let (window, _) ← c.window.complete ticket result
    pure { c with window }
  | .taskCreated (.ok t) =>
    let done := "Created task " ++ toString t.id ++ " (" ++ t.name ++ ")"
    let c := c.resetForm
    refreshTasks { c with mode := .normal, status := some done }
  | .taskCreated (.error e) => pure { c with alert := some ("Failed to create task: " ++ e.message) }
  | .taskCancelled task (.ok ()) =>
    pure { c with status := some ("Cancel requested for task " ++ toString task) }
  | .taskCancelled _ (.error e) => pure { c with alert := some ("Failed to cancel task: " ++ e.message) }
  | .logsDownloaded task (.ok path) =>
    pure { c with status := some ("Saved logs of task " ++ toString task ++ " to " ++ path) }
  | .logsDownloaded _ (.error e) =>
    pure { c with alert := some ("Failed to download logs: " ++ e.message) }
  | .live ev => c.onLive ev

/-! ## The task list -/

/-- Go to the next page, if there is one. -/
def nextPage (c : Console) : Checked Console := do
  let (tasks, r) ← c.tasks.nextPage
  pure ({ c with tasks }.issueList r)

/-- Go to the previous page, if there is one. -/
def prevPage (c : Console) : Checked Console := do
  let (tasks, r) ← c.tasks.prevPage
  pure ({ c with tasks }.issueList r)

/-- Step to the next or previous page size. -/
def cyclePageSize (c : Console) (forward : Bool) : Checked Console := do
  let (tasks, r) ← c.tasks.cyclePageSize forward
  pure ({ c with tasks, status := some ("Page size: " ++ toString tasks.pageSize) }.issue
    (.fetchTasks r))

/-- Step to the next status filter. -/
def cycleFilter (c : Console) : Checked Console := do
  let (tasks, r) ← c.tasks.cycleFilter
  let shown := match tasks.filter with
    | some s => s.label
    | none => "all"
  pure ({ c with tasks, status := some ("Status filter: " ++ shown) }.issue (.fetchTasks r))

/-- Ask to cancel the selected task, if it is active. -/
def cancelSelected (c : Console) : Console :=
  match c.tasks.selectedTask with
  | none => c
  | some t =>
    if t.isActive then c.issue (.cancelTask t.id)
    else { c with status := some "Only queued or running tasks can be cancelled" }

/-- Ask to download the selected task's logs, if it has finished. -/
def downloadSelected (c : Console) : Console :=
  match c.tasks.selectedTask with
  | none => c
  | some t =>
    if t.isActive then { c with status := some "Logs can be downloaded once the task has finished" }
    else c.issue (.downloadLogs t.id)

/-! ## The create form -/

/-- Open the create form on its name field; what was typed before stays. -/
def startCreate (c : Console) : Console :=
  { c with mode := .createTask, formField := .name }

/-- Move the focus to the other field. -/
def toggleFormField (c : Console) : Console :=
  { c with formField := c.formField.other }

/-- Ask to create the task the form describes, or alert why it cannot be. -/
def submitCreate (c : Console) : Console :=
  match NewTask.make c.nameField.text c.commandField.text with
  | .ok t => c.issue (.createTask t)
  | .error e => { c with alert := some e.message }

/-- Close the create form. -/
def cancelCreate (c : Console) : Console :=
  { c with mode := .normal }

/-- The focused field of the create form after a key press. -/
def editForm (c : Console) (k : Input.KeyPress) : Console :=
  match c.formField with
  | .name => { c with nameField := c.nameField.edit k }
  | .command => { c with commandField := c.commandField.edit k }

/-! ## The log window -/

/-- Show the logs of a task and ask for their tail. -/
def openLogs (c : Console) (task : Nat) : Console :=
  let (window, t) := c.window.openTask task
  { c with window, view := .logs }.issue (.fetchLogs t)

/-- Show the logs of the selected task, if there is one. -/
def openSelectedLogs (c : Console) : Console :=
  match c.tasks.selectedTask with
  | some t => c.openLogs t.id
  | none => c

/-- Leave the log window for the task list. -/
def closeLogs (c : Console) : Console :=
  { c with window := c.window.close, view := .tasks, mode := .normal }

/-- Load the shown logs again. -/
def reloadLogs (c : Console) : Console :=
  let (window, t) := c.window.reload
  { c with window }.issueLoad t

/-- Open an empty range prompt. -/
def startRangeInput (c : Console) : Console :=
  { c with rangeField := {}, mode := .rangeInput }

/-- Load the range typed in the prompt, which closes. -/
def submitRange (c : Console) : Console :=
  let c := { c with mode := .normal }
  match Input.parseRange c.rangeField.text with
  | none => { c with alert := some "Enter a line range as FROM-TO" }
  | some (first, last) =>
    match c.window.loadRange first last with
    | .ok (window, some t) => { c with window }.issue (.fetchLogs t)
    | .ok (window, none) => { c with window, status := some "Logs are still loading" }
    | .error e => { c with alert := some e.message }

/-- Scroll the log window by lines, then load what came into reach. -/
def scrollLogs (c : Console) (delta : Int) : Checked Console := do
  let window ← c.window.scrollLines delta
  let (window, t) ← window.onScroll
  pure ({ c with window }.issueLoad t)

/-- Scroll the log window by a page of at least one line. -/
def scrollLogsPage (c : Console) (down : Bool) : Checked Console := do
  let rows := Word.signed (max c.window.viewportRows 1)
  c.scrollLogs (← if down then pure rows else Word.neg rows)

/-- Scroll to the first loaded line, then load what came into reach. -/
def logsToTop (c : Console) : Checked Console := do
  let (window, t) ← c.window.scrollToTop.onScroll
  pure ({ c with window }.issueLoad t)

/-- Scroll to the last line. -/
def logsToBottom (c : Console) : Checked Console := do
  pure { c with window := ← c.window.scrollToBottom }

/-- Switch the colouring of log levels. -/
def toggleLevelColors (c : Console) : Console :=
  let on := !c.levelColors
  { c with levelColors := on, status := some ("Level colors: " ++ if on then "on" else "off") }

end Console

end TaskConsole
