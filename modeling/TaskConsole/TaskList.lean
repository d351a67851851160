import TaskConsole.Task.Basic
import TaskConsole.Word

/-! The task list: each change of page, size or filter issues a request with a new
sequence number, and only the latest request's response is taken. -/

namespace TaskConsole

/-- The page sizes a user can step through. -/
def pageSizeChoices : List Nat := [5, 10, 20, 50]

/-- A list fetch, tagged so that late responses can be dropped. -/
structure ListRequest where
  seq : Nat
  query : ListQuery
  deriving DecidableEq, Repr

/-- The task list as shown: one page of tasks, the selection and the filter. -/
structure TaskList where
  page : Nat := 1
  pageSize : Nat
  total : Nat := 0
  tasks : List Task := []
  selected : Nat := 0
  filter : Option TaskStatus := none
  error : Option String := none
  seq : Nat := 0
  deriving Repr

namespace TaskList

/-- An empty list on page 1; the page size is at least 1. -/
def new (pageSize : Nat) : TaskList := { pageSize := max pageSize 1 }

/-- Ask for the current page, with a new sequence number. -/
def refresh (l : TaskList) : Checked (TaskList × ListRequest) := do
  let offset ← Word.mul (l.page - 1) l.pageSize
  let l := { l with seq := l.seq + 1 }
  pure (l, ⟨l.seq, ⟨offset, l.pageSize, l.filter⟩⟩)

/-- Take a list response for request `seq`. Only the latest request's response
is taken (`true`); a page replaces the tasks and keeps the selection within
them, a failure is kept as the list's error. -/
def applyPage (l : TaskList) (seq : Nat) (result : Except LoadError TaskPage) : TaskList × Bool :=
  if seq ≠ l.seq then (l, false)
  else
    match result with
    | .ok page =>
      ({ l with total := page.total, tasks := page.tasks,
                selected := min l.selected (page.tasks.length - 1), error := none }, true)
    | .error e => ({ l with error := some ("Failed to load tasks: " ++ e.message) }, true)

/-- The task with the update applied. -/
def patchTask (u : StatusUpdate) (t : Task) : Task :=
  { t with status := u.status, exitCode := u.exitCode.getD t.exitCode,
           reason := u.reason.getD t.reason }

/-- Apply a live status update. The first listed task of that id is patched; a
request for the page follows when no listed task has that id, or the filter
excludes the new status. -/
def applyStatus (l : TaskList) (u : StatusUpdate) : Checked (TaskList × Option ListRequest) :=
  match l.tasks.findIdx? (·.id == u.task) with
  | none => do
    let (l, r) ← l.refresh
    pure (l, some r)
  | some i =>
    let l := { l with tasks := l.tasks.modify i (patchTask u) }
    if l.filter.any (· ≠ u.status) then do
      let (l, r) ← l.refresh
      pure (l, some r)
    else pure (l, none)

/-- The number of pages, at least one. -/
def totalPages (l : TaskList) : Nat :=
  max ((l.total + l.pageSize - 1) / l.pageSize) 1

/-- Go to the next page, if there is one. -/
def nextPage (l : TaskList) : Checked (TaskList × Option ListRequest) :=
  if l.page ≥ l.totalPages then pure (l, none)
  else do
    let (l, r) ← { l with page := l.page + 1, selected := 0 }.refresh
    pure (l, some r)

/-- Go to the previous page, if there is one. -/
def prevPage (l : TaskList) : Checked (TaskList × Option ListRequest) :=
  if l.page ≤ 1 then pure (l, none)
  else do
    let (l, r) ← { l with page := l.page - 1, selected := 0 }.refresh
    pure (l, some r)

/-- The index of the first page size choice not below `size`, or the last one. -/
def choiceIndex (size : Nat) : Nat :=
  (pageSizeChoices.findIdx? (size ≤ ·)).getD (pageSizeChoices.length - 1)

/-- Step to the next larger (`forward`) or smaller page size choice, back to
page 1. -/
def cyclePageSize (l : TaskList) (forward : Bool) : Checked (TaskList × ListRequest) :=
  let i := choiceIndex l.pageSize
  let i := if forward then min (i + 1) (pageSizeChoices.length - 1) else i - 1
  { l with pageSize := pageSizeChoices.getD i 1, page := 1, selected := 0 }.refresh

/-- Step the filter: all, then each status in wire order, then all again. -/
def cycleFilter (l : TaskList) : Checked (TaskList × ListRequest) :=
  let filter := match l.filter with
    | none => some .queued
    | some s => s.next?
  { l with filter, page := 1, selected := 0 }.refresh

/-- Select the next task, staying on the last. -/
def selectNext (l : TaskList) : TaskList :=
  if l.tasks.isEmpty then l else { l with selected := min (l.selected + 1) (l.tasks.length - 1) }

/-- Select the previous task, staying on the first. -/
def selectPrev (l : TaskList) : TaskList := { l with selected := l.selected - 1 }

/-- The selected task, if the selection is on one. -/
def selectedTask (l : TaskList) : Option Task := l.tasks[l.selected]?

/-- The first listed task with this id. -/
def find? (l : TaskList) (id : Nat) : Option Task := l.tasks.find? (·.id == id)

/-- The page line: page, pages and total. -/
def pageInfo (l : TaskList) : String :=
  "Page " ++ toString l.page ++ " of " ++ toString l.totalPages ++ " (" ++ toString l.total ++
    " total tasks)"

end TaskList

end TaskConsole
