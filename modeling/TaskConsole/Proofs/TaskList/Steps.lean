import TaskConsole.TaskList
import TaskConsole.Proofs.Chunk

/-! What each task-list function does, one inversion lemma per function, so that no
later proof unfolds a task-list function. -/

namespace TaskConsole

namespace TaskList

variable {l l' : TaskList} {r : ListRequest} {r? : Option ListRequest}

/-- The request for the list's current page, under its sequence number. -/
def request (l : TaskList) : ListRequest :=
  ⟨l.seq, ⟨(l.page - 1) * l.pageSize, l.pageSize, l.filter⟩⟩

/-! ## Refreshing and moving between pages -/

theorem refresh_eq_ok : l.refresh = .ok (l', r) ↔
    (l.page - 1) * l.pageSize < wordBound ∧ l' = { l with seq := l.seq + 1 } ∧
      r = l'.request := by
  constructor
  · intro h
    obtain ⟨offset, hmul, h⟩ := checked_bind_eq_ok h
    obtain ⟨hfit, rfl⟩ := Word.mul_eq_ok_iff.mp hmul
    cases checked_pure_eq_ok h
    exact ⟨hfit, rfl, rfl⟩
  · rintro ⟨hfit, rfl, rfl⟩
    unfold refresh
    rw [Word.mul_eq_ok hfit]
    rfl

theorem refresh_of_fits (h : (l.page - 1) * l.pageSize < wordBound) :
    l.refresh = .ok ({ l with seq := l.seq + 1 }, { l with seq := l.seq + 1 }.request) :=
  refresh_eq_ok.mpr ⟨h, rfl, rfl⟩

theorem refresh_fields {l₁ : TaskList} (h : l₁.refresh = .ok (l', r)) :
    l' = { l₁ with seq := l₁.seq + 1 } :=
  (refresh_eq_ok.mp h).2.1

/-- A computation that hands on the request of a refresh stops exactly when the
refresh does. -/
theorem issue_eq_ok {x : Checked (TaskList × ListRequest)}
    (h : (do let (l, r) ← x; pure (l, some r) : Checked (TaskList × Option ListRequest)) =
      .ok (l', r?)) :
    ∃ r, r? = some r ∧ x = .ok (l', r) := by
  obtain ⟨⟨l₁, r⟩, hx, h⟩ := checked_bind_eq_ok h
  cases checked_pure_eq_ok h
  exact ⟨r, rfl, hx⟩

theorem nextPage_eq_ok (h : l.nextPage = .ok (l', r?)) :
    (l.totalPages ≤ l.page ∧ l' = l ∧ r? = none) ∨
      (l.page < l.totalPages ∧ ∃ r, r? = some r ∧
        { l with page := l.page + 1, selected := 0 }.refresh = .ok (l', r)) := by
  unfold nextPage at h
  split at h
  · cases checked_pure_eq_ok h
    exact .inl ⟨by omega, rfl, rfl⟩
  · exact .inr ⟨by omega, issue_eq_ok h⟩

theorem prevPage_eq_ok (h : l.prevPage = .ok (l', r?)) :
    (l.page ≤ 1 ∧ l' = l ∧ r? = none) ∨
      (1 < l.page ∧ ∃ r, r? = some r ∧
        { l with page := l.page - 1, selected := 0 }.refresh = .ok (l', r)) := by
  unfold prevPage at h
  split at h
  · cases checked_pure_eq_ok h
    exact .inl ⟨by omega, rfl, rfl⟩
  · exact .inr ⟨by omega, issue_eq_ok h⟩

theorem choiceIndex_lt (size : Nat) : choiceIndex size < pageSizeChoices.length := by
  unfold choiceIndex
  cases h : pageSizeChoices.findIdx? (size ≤ ·) with
  | none => decide
  | some i => exact (List.findIdx?_eq_some_iff_getElem.mp h).1

theorem getD_mem_pageSizeChoices {i : Nat} (h : i < pageSizeChoices.length) :
    pageSizeChoices.getD i 1 ∈ pageSizeChoices := by
  have hall : ∀ j < pageSizeChoices.length, pageSizeChoices.getD j 1 ∈ pageSizeChoices := by
    decide
  exact hall i h

/-- A page size step takes one of the choices and goes back to page 1. -/
theorem cyclePageSize_eq (l : TaskList) (forward : Bool) : ∃ size ∈ pageSizeChoices,
    l.cyclePageSize forward = { l with pageSize := size, page := 1, selected := 0 }.refresh := by
  have hi := choiceIndex_lt l.pageSize
  refine ⟨_, getD_mem_pageSizeChoices ?_, rfl⟩
  split <;> omega

theorem cycleFilter_eq (l : TaskList) : ∃ filter,
    l.cycleFilter = { l with filter, page := 1, selected := 0 }.refresh := ⟨_, rfl⟩

/-! ## Live updates -/

/-- Patching an element keeps whether it is looked for; so a lookup after the
patch finds the patched element if the patch hit the first match, and else what
it found before. -/
theorem find?_modify {α : Type} {p : α → Bool} {f : α → α} (hf : ∀ a, p (f a) = p a)
    (xs : List α) (i : Nat) :
    (xs.modify i f).find? p =
      if xs.findIdx? p = some i then (xs.find? p).map f else xs.find? p := by
  induction xs generalizing i with
  | nil => simp
  | cons a xs ih =>
    cases i with
    | zero =>
      rw [List.modify_zero_cons]
      by_cases ha : p a <;> simp [List.findIdx?_cons, ha, hf]
    | succ i =>
      rw [List.modify_succ_cons]
      by_cases ha : p a <;> simp [List.findIdx?_cons, ha, ih]

/-- `tasks` is `old` with the first task of the update's id patched: as many
tasks, that task found patched, and every other id found as before. -/
structure Patched (u : StatusUpdate) (old tasks : List Task) : Prop where
  length_eq : tasks.length = old.length
  find_self : tasks.find? (·.id == u.task) = (old.find? (·.id == u.task)).map (patchTask u)
  find_other : ∀ x, x ≠ u.task → tasks.find? (·.id == x) = old.find? (·.id == x)

theorem patched_modify {u : StatusUpdate} {tasks : List Task} {i : Nat}
    (hi : tasks.findIdx? (·.id == u.task) = some i) :
    Patched u tasks (tasks.modify i (patchTask u)) where
  length_eq := List.length_modify _ _ _
  find_self := by rw [find?_modify (f := patchTask u) (fun _ => rfl), if_pos hi]
  find_other x hx := by
    rw [find?_modify (f := patchTask u) (fun _ => rfl), if_neg]
    -- the patched task has the update's id, so it is not the first of id `x`
    intro hx'
    obtain ⟨hlt, hself, -⟩ := List.findIdx?_eq_some_iff_getElem.mp hi
    obtain ⟨hlt', hother, -⟩ := List.findIdx?_eq_some_iff_getElem.mp hx'
    simp only [beq_iff_eq] at hself hother
    exact hx (hother.symm.trans hself)

theorem patched_absent {u : StatusUpdate} {tasks : List Task}
    (hi : tasks.findIdx? (·.id == u.task) = none) : Patched u tasks tasks where
  length_eq := rfl
  find_self := by
    rw [List.find?_eq_none.mpr fun t ht => by simp [List.findIdx?_eq_none_iff.mp hi t ht]]
    rfl
  find_other _ _ := rfl

/-- A live update patches the first listed task of its id and asks for the page
again, unless it patched one whose new status the filter admits. -/
theorem applyStatus_eq_ok {u : StatusUpdate} (h : l.applyStatus u = .ok (l', r?)) :
    ∃ tasks, Patched u l.tasks tasks ∧
      ((r? = none ∧ l' = { l with tasks } ∧ (l.tasks.find? (·.id == u.task)).isSome ∧
          l.filter.any (· ≠ u.status) = false) ∨
        ∃ r, r? = some r ∧ { l with tasks }.refresh = .ok (l', r)) := by
  unfold applyStatus at h
  split at h
  · next hi => exact ⟨_, patched_absent hi, .inr (issue_eq_ok h)⟩
  · next i hi =>
    refine ⟨_, patched_modify hi, ?_⟩
    dsimp only at h
    split at h
    · exact .inr (issue_eq_ok h)
    · next hfilter =>
      cases checked_pure_eq_ok h
      refine .inl ⟨rfl, rfl, ?_, by simpa using hfilter⟩
      rw [List.find?_isSome]
      obtain ⟨hlt, hself, -⟩ := List.findIdx?_eq_some_iff_getElem.mp hi
      exact ⟨_, List.getElem_mem hlt, hself⟩

/-- A live update returns whenever a refresh of the list would. -/
theorem applyStatus_returns {u : StatusUpdate} (h : (l.page - 1) * l.pageSize < wordBound) :
    ∃ l' r?, l.applyStatus u = .ok (l', r?) := by
  unfold applyStatus
  split
  · rw [refresh_of_fits h]
    exact ⟨_, _, rfl⟩
  · next i _ =>
    dsimp only
    split
    · rw [refresh_of_fits (l := { l with tasks := l.tasks.modify i (patchTask u) }) h]
      exact ⟨_, _, rfl⟩
    · exact ⟨_, _, rfl⟩

/-! ## Responses -/

theorem applyPage_of_ne {seq : Nat} {result : Except LoadError TaskPage} (h : seq ≠ l.seq) :
    l.applyPage seq result = (l, false) := if_pos h

theorem applyPage_page (l : TaskList) (page : TaskPage) :
    l.applyPage l.seq (.ok page) =
      ({ l with total := page.total, tasks := page.tasks,
                selected := min l.selected (page.tasks.length - 1), error := none }, true) :=
  if_neg (by simp)

theorem applyPage_failure (l : TaskList) (e : LoadError) :
    l.applyPage l.seq (.error e) =
      ({ l with error := some ("Failed to load tasks: " ++ e.message) }, true) :=
  if_neg (by simp)

/-- A response either leaves the list as it is, or answers the latest request
with a page or a failure. -/
theorem applyPage_cases (l : TaskList) (seq : Nat) (result : Except LoadError TaskPage) :
    (l.applyPage seq result).1 = l ∨
      (seq = l.seq ∧ ∃ page, result = .ok page ∧ (l.applyPage seq result).1 =
        { l with total := page.total, tasks := page.tasks,
                 selected := min l.selected (page.tasks.length - 1), error := none }) ∨
      (seq = l.seq ∧ ∃ e, result = .error e ∧ (l.applyPage seq result).1 =
        { l with error := some ("Failed to load tasks: " ++ e.message) }) := by
  by_cases hseq : seq = l.seq
  · subst hseq
    cases result with
    | ok page => exact .inr (.inl ⟨rfl, page, rfl, by rw [applyPage_page]⟩)
    | error e => exact .inr (.inr ⟨rfl, e, rfl, by rw [applyPage_failure]⟩)
  · exact .inl (by rw [applyPage_of_ne hseq])

theorem applyPage_request (l : TaskList) (seq : Nat) (result : Except LoadError TaskPage) :
    (l.applyPage seq result).1.request = l.request := by
  rcases applyPage_cases l seq result with h | ⟨-, page, -, h⟩ | ⟨-, e, -, h⟩ <;> rw [h] <;>
    rfl

end TaskList

end TaskConsole
