import TaskConsole.Console.Actions

/-! Keys and the mouse, in order of precedence: Control-C, an alert, the help screen,
then the mode (`taskKey`, `logKey`, the create form and the range prompt). -/

namespace TaskConsole

namespace Console

open Input

/-- A key on the task list. -/
def taskKey (c : Console) (k : KeyPress) : Checked Console :=
  match k.code with
  | .char 'q' => pure { c with quit := true }
  | .char '?' => pure { c with showHelp := true }
  | .char 'j' | .down => pure { c with tasks := c.tasks.selectNext }
  | .char 'k' | .up => pure { c with tasks := c.tasks.selectPrev }
  | .char 'n' | .right => c.nextPage
  | .char 'p' | .left => c.prevPage
  | .char '+' => c.cyclePageSize true
  | .char '-' => c.cyclePageSize false
  | .char 'f' => c.cycleFilter
  | .char 'r' => c.refreshTasks
  | .enter | .char 'l' => pure c.openSelectedLogs
  | .char 'a' => pure c.startCreate
  | .char 'x' | .delete => pure c.cancelSelected
  | .char 'D' => pure c.downloadSelected
  | _ => pure c

/-- A key on the log window. -/
def logKey (c : Console) (k : KeyPress) : Checked Console :=
  match k.code with
  | .char 'q' | .esc => pure c.closeLogs
  | .char '?' => pure { c with showHelp := true }
  | .char 'j' | .down => c.scrollLogs 1
  | .char 'k' | .up => c.scrollLogs (-1)
  | .char 'd' => if k.ctrl then c.scrollLogsPage true else pure c
  | .char 'u' => if k.ctrl then c.scrollLogsPage false else pure c
  | .pageDown => c.scrollLogsPage true
  | .pageUp => c.scrollLogsPage false
  | .char 'g' | .homeKey => c.logsToTop
  | .char 'G' | .endKey => c.logsToBottom
  | .char 'r' => pure c.reloadLogs
  | .char ':' => pure c.startRangeInput
  | .char 'c' => pure c.toggleLevelColors
  | _ => pure c

/-- A key in the create form. -/
def formKey (c : Console) (k : KeyPress) : Console :=
  match k.code with
  | .esc => c.cancelCreate
  | .tab | .backTab => c.toggleFormField
  | .enter => c.submitCreate
  | _ => c.editForm k

/-- A key in the range prompt. -/
def rangeKey (c : Console) (k : KeyPress) : Console :=
  match k.code with
  | .esc => { c with mode := .normal }
  | .enter => c.submitRange
  | _ => { c with rangeField := c.rangeField.edit k }

/-- The console after a key press. -/
def pressKey (c : Console) (k : KeyPress) : Checked Console :=
  if k.isCtrl 'c' then pure { c with quit := true }
  else if c.alert.isSome then pure { c with alert := none }
  else if c.showHelp then
    match k.code with
    | .esc | .char 'q' | .char '?' => pure { c with showHelp := false }
    | _ => pure c
  else
    match c.mode, c.view with
    | .createTask, _ => pure (c.formKey k)
    | .rangeInput, _ => pure (c.rangeKey k)
    | .normal, .tasks => c.taskKey k
    | .normal, .logs => c.logKey k

/-- The console after a mouse action. -/
def useMouse (c : Console) (m : MouseAction) : Checked Console :=
  if c.alert.isSome || c.showHelp then pure c
  else
    match c.view, m with
    | .logs, .wheelUp => c.scrollLogs (-wheelLines)
    | .logs, .wheelDown => c.scrollLogs wheelLines
    | .tasks, .wheelUp => pure { c with tasks := c.tasks.selectPrev }
    | .tasks, .wheelDown => pure { c with tasks := c.tasks.selectNext }
    | _, _ => pure c

end Console

end TaskConsole
