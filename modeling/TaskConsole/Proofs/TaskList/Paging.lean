import TaskConsole.Proofs.Console.Relay
import TaskConsole.Proofs.TaskList.Steps

/-! Runs of the task list: every reachable list is `Sound` (`reachable_list_sound`),
only the latest request's response is taken (`latest_reply_wins`), and the page
stays within the count while the total does not drop (`page_within_total_pages`). -/

namespace TaskConsole

namespace TaskList

variable {l l' l₀ l₁ l₂ : TaskList} {r : ListRequest} {r? : Option ListRequest}
  {op : TaskListOp} {ops : List TaskListOp} {rs : List ListRequest} {g : Nat}

/-- The total `nextPage` last checked when it moved forward, as `op` leaves it: a
forward move records the total it checked, every other operation (a `nextPage`
on the last page too) keeps `checked`. -/
def checkedAfter (l : TaskList) (checked : Nat) : TaskListOp → Nat
  | .nextPage => if l.page < l.totalPages then l.total else checked
  | _ => checked

/-- One operation replayed on a list, together with the total `nextPage` last
checked when it moved forward. An operation that stops on an overflow changes
neither. -/
def checkStep (p : TaskList × Nat) (op : TaskListOp) : TaskList × Nat :=
  match p.1.perform op with
  | .ok (l', _) => (l', p.1.checkedAfter p.2 op)
  | .error _ => p

/-- The total that `nextPage` last checked when it moved forward, over the
operations `ops` performed from `l`; `0` while it has not moved forward. -/
def lastChecked (l : TaskList) (ops : List TaskListOp) : Nat :=
  (ops.foldl checkStep (l, 0)).2

/-- What every reachable list keeps, `checked` being the total `nextPage` last
checked when it moved forward. -/
structure Sound (l : TaskList) (checked : Nat) : Prop where
  page_pos : 1 ≤ l.page
  pageSize_pos : 1 ≤ l.pageSize
  selected_valid : l.selected = 0 ∨ l.selected < l.tasks.length
  offset_checked : l.page = 1 ∨ (l.page - 1) * l.pageSize < checked

theorem new_sound (n : Nat) : Sound (new n) 0 :=
  ⟨Nat.le_refl 1, Nat.le_max_right n 1, .inl rfl, .inl rfl⟩

/-- A sound list's page starts at 0 or below the checked total. -/
theorem Sound.offset_zero_or_lt (hs : Sound l g) :
    (l.page - 1) * l.pageSize = 0 ∨ (l.page - 1) * l.pageSize < g :=
  hs.offset_checked.imp_left fun hfirst => by rw [hfirst, Nat.sub_self, Nat.zero_mul]

/-- So the offset of a sound list is a word when the checked total is. -/
theorem Sound.offset_lt (hs : Sound l g) (hg : g < wordBound) :
    (l.page - 1) * l.pageSize < wordBound := by
  rcases hs.offset_zero_or_lt with hzero | hlt
  · rw [hzero]
    exact Nat.lt_of_le_of_lt (Nat.zero_le _) hg
  · exact Nat.lt_trans hlt hg

/-! ## Page arithmetic -/

/-- A page before the last starts, with the page after it, below the total. -/
theorem mul_lt_total_of_lt_totalPages (hp : 1 ≤ l.page) (hps : 1 ≤ l.pageSize)
    (h : l.page < l.totalPages) : l.page * l.pageSize < l.total := by
  have hq : l.page < (l.total + l.pageSize - 1) / l.pageSize := by
    unfold totalPages at h
    omega
  have hmul := (Nat.le_div_iff_mul_le (by omega)).mp hq
  rw [Nat.succ_mul] at hmul
  omega

/-- The page is within the page count exactly when it is the first or starts
below the total. -/
theorem page_le_totalPages_iff (hp : 1 ≤ l.page) (hps : 1 ≤ l.pageSize) :
    l.page ≤ l.totalPages ↔ l.page = 1 ∨ (l.page - 1) * l.pageSize < l.total := by
  obtain ⟨k, hk⟩ : ∃ k, l.page = k + 1 := ⟨l.page - 1, by omega⟩
  have hdiv : k + 1 ≤ (l.total + l.pageSize - 1) / l.pageSize ↔ k * l.pageSize < l.total := by
    rw [Nat.le_div_iff_mul_le (by omega), Nat.succ_mul]
    omega
  unfold totalPages
  rw [hk, Nat.add_sub_cancel, ← hdiv]
  omega

/-- The page before starts no later than this one. -/
theorem prev_offset_le (l : TaskList) :
    (l.page - 1 - 1) * l.pageSize ≤ (l.page - 1) * l.pageSize :=
  Nat.mul_le_mul_right _ (Nat.sub_le _ _)

/-! ## One operation -/

/-- An operation that issues a request hands on the request of a refresh. -/
theorem issue_map_eq_ok {x : Checked (TaskList × ListRequest)}
    (h : x.map (fun p => (p.1, some p.2)) = .ok (l', r?)) :
    ∃ r, r? = some r ∧ x = .ok (l', r) := by
  cases x with
  | error e => cases h
  | ok p =>
    cases h
    exact ⟨p.2, rfl, rfl⟩

/-- A refresh of a list numbered as `l` issues the request for the page it
leaves, under the number after `l`'s. -/
theorem issued_of_refresh (h : l₁.refresh = .ok (l', r)) (hseq : l₁.seq = l.seq) :
    some r = some l'.request ∧ l'.seq = l.seq + 1 := by
  obtain ⟨-, rfl, rfl⟩ := refresh_eq_ok.mp h
  exact ⟨rfl, congrArg (· + 1) hseq⟩

theorem selectNext_request (l : TaskList) : l.selectNext.request = l.request := by
  unfold selectNext
  split <;> rfl

/-- An operation either issues no request and leaves the request for the current
page as it was, or issues the request for the page it leaves, under the next
sequence number. -/
theorem perform_request (h : l.perform op = .ok (l', r?)) :
    (r? = none ∧ l'.request = l.request) ∨ (r? = some l'.request ∧ l'.seq = l.seq + 1) := by
  cases op with
  | refresh =>
    obtain ⟨r, rfl, hr⟩ := issue_map_eq_ok h
    exact .inr (issued_of_refresh hr rfl)
  | status u =>
    obtain ⟨tasks, -, ⟨rfl, rfl, -⟩ | ⟨r, rfl, hr⟩⟩ := applyStatus_eq_ok h
    · exact .inl ⟨rfl, rfl⟩
    · exact .inr (issued_of_refresh hr rfl)
  | nextPage =>
    rcases nextPage_eq_ok h with ⟨-, rfl, rfl⟩ | ⟨-, r, rfl, hr⟩
    · exact .inl ⟨rfl, rfl⟩
    · exact .inr (issued_of_refresh hr rfl)
  | prevPage =>
    rcases prevPage_eq_ok h with ⟨-, rfl, rfl⟩ | ⟨-, r, rfl, hr⟩
    · exact .inl ⟨rfl, rfl⟩
    · exact .inr (issued_of_refresh hr rfl)
  | cyclePageSize forward =>
    obtain ⟨r, rfl, hr⟩ := issue_map_eq_ok h
    obtain ⟨size, -, hcycle⟩ := cyclePageSize_eq l forward
    rw [hcycle] at hr
    exact .inr (issued_of_refresh hr rfl)
  | cycleFilter =>
    obtain ⟨r, rfl, hr⟩ := issue_map_eq_ok h
    obtain ⟨filter, hcycle⟩ := cycleFilter_eq l
    rw [hcycle] at hr
    exact .inr (issued_of_refresh hr rfl)
  | selectNext =>
    cases checked_pure_eq_ok h
    exact .inl ⟨rfl, selectNext_request l⟩
  | selectPrev =>
    cases checked_pure_eq_ok h
    exact .inl ⟨rfl, rfl⟩
  | page seq result =>
    cases checked_pure_eq_ok h
    exact .inl ⟨rfl, applyPage_request l seq result⟩

/-- The sequence number never goes back, and a request issued carries the new one. -/
theorem perform_seq (h : l.perform op = .ok (l', r?)) :
    l.seq ≤ l'.seq ∧ ∀ r ∈ r?, r.seq = l'.seq := by
  rcases perform_request h with ⟨rfl, hreq⟩ | ⟨rfl, hseq⟩
  · exact ⟨Nat.le_of_eq (congrArg ListRequest.seq hreq).symm, fun _ h => by cases h⟩
  · refine ⟨by omega, fun r hr => ?_⟩
    rw [← Option.mem_some_iff.mp hr]
    rfl

/-- A refresh changes nothing that `Sound` reads. -/
theorem refresh_sound (h : l₁.refresh = .ok (l', r)) (hs : Sound l₁ g) : Sound l' g := by
  obtain ⟨-, rfl, -⟩ := refresh_eq_ok.mp h
  exact ⟨hs.page_pos, hs.pageSize_pos, hs.selected_valid, hs.offset_checked⟩

/-- A list sent back to page 1 with nothing selected is sound whatever was
checked, as long as a page holds a task. -/
theorem sound_first_page (hps : 1 ≤ l.pageSize) (h : l.page = 1) (hsel : l.selected = 0) :
    Sound l g :=
  ⟨by omega, hps, .inl hsel, .inl h⟩

theorem pageSizeChoices_pos {size : Nat} (h : size ∈ pageSizeChoices) : 1 ≤ size := by
  have hall : ∀ s ∈ pageSizeChoices, 1 ≤ s := by decide
  exact hall size h

/-- Every operation keeps the list sound, with the total `nextPage` checks when
it moves forward. -/
theorem perform_sound (hs : Sound l g) (h : l.perform op = .ok (l', r?)) :
    Sound l' (l.checkedAfter g op) := by
  cases op with
  | refresh =>
    obtain ⟨r, -, hr⟩ := issue_map_eq_ok h
    exact refresh_sound hr hs
  | status u =>
    obtain ⟨tasks, hpatch, hend⟩ := applyStatus_eq_ok h
    have hsound : Sound { l with tasks } g :=
      ⟨hs.page_pos, hs.pageSize_pos, hpatch.length_eq ▸ hs.selected_valid, hs.offset_checked⟩
    rcases hend with ⟨-, rfl, -⟩ | ⟨r, -, hr⟩
    · exact hsound
    · exact refresh_sound hr hsound
  | nextPage =>
    rcases nextPage_eq_ok h with ⟨hlast, rfl, -⟩ | ⟨hmore, r, -, hr⟩
    · rw [checkedAfter, if_neg (by omega)]
      exact hs
    · -- the next page starts below the total just checked
      rw [checkedAfter, if_pos hmore]
      have hfit := mul_lt_total_of_lt_totalPages hs.page_pos hs.pageSize_pos hmore
      refine refresh_sound hr ⟨Nat.le_add_left 1 _, hs.pageSize_pos, .inl rfl, .inr ?_⟩
      simpa using hfit
  | prevPage =>
    rcases prevPage_eq_ok h with ⟨-, rfl, -⟩ | ⟨hback, r, -, hr⟩
    · exact hs
    · refine refresh_sound hr ⟨show 1 ≤ l.page - 1 by omega, hs.pageSize_pos, .inl rfl, ?_⟩
      rcases hs.offset_checked with hfirst | hlt
      · omega
      · exact .inr (Nat.lt_of_le_of_lt (prev_offset_le l) hlt)
  | cyclePageSize forward =>
    obtain ⟨r, -, hr⟩ := issue_map_eq_ok h
    obtain ⟨size, hsize, hcycle⟩ := cyclePageSize_eq l forward
    rw [hcycle] at hr
    exact refresh_sound hr (sound_first_page (pageSizeChoices_pos hsize) rfl rfl)
  | cycleFilter =>
    obtain ⟨r, -, hr⟩ := issue_map_eq_ok h
    obtain ⟨filter, hcycle⟩ := cycleFilter_eq l
    rw [hcycle] at hr
    exact refresh_sound hr (sound_first_page hs.pageSize_pos rfl rfl)
  | selectNext =>
    cases checked_pure_eq_ok h
    unfold selectNext
    split
    · exact hs
    · next hne =>
      have hpos : 0 < l.tasks.length := List.length_pos_iff.mpr (by simpa using hne)
      exact ⟨hs.page_pos, hs.pageSize_pos, .inr (by simp; omega), hs.offset_checked⟩
  | selectPrev =>
    cases checked_pure_eq_ok h
    refine ⟨hs.page_pos, hs.pageSize_pos, ?_, hs.offset_checked⟩
    show l.selected - 1 = 0 ∨ l.selected - 1 < l.tasks.length
    rcases hs.selected_valid with h0 | hlt <;> omega
  | page seq result =>
    cases checked_pure_eq_ok h
    rcases applyPage_cases l seq result with heq | ⟨-, page, -, heq⟩ | ⟨-, e, -, heq⟩ <;>
      rw [heq]
    · exact hs
    · -- the selection is kept within the new tasks
      refine ⟨hs.page_pos, hs.pageSize_pos, ?_, hs.offset_checked⟩
      show min l.selected (page.tasks.length - 1) = 0 ∨
        min l.selected (page.tasks.length - 1) < page.tasks.length
      omega
    · exact ⟨hs.page_pos, hs.pageSize_pos, hs.selected_valid, hs.offset_checked⟩

/-- A sound list, with the checked total and its own total words, performs every
operation: the one computation that can overflow, the offset of a refresh, stays
below a total. -/
theorem perform_returns (hs : Sound l g) (hg : g < wordBound) (ht : l.total < wordBound)
    (op : TaskListOp) : ∃ l' r?, l.perform op = .ok (l', r?) := by
  have hfit := hs.offset_lt hg
  have hfirst : ∀ k, (1 - 1) * k < wordBound := fun k => by
    rw [Nat.sub_self, Nat.zero_mul]
    exact Nat.lt_of_le_of_lt (Nat.zero_le _) hg
  cases op with
  | refresh =>
    rw [perform, refresh_of_fits hfit]
    exact ⟨_, _, rfl⟩
  | status u => exact applyStatus_returns hfit
  | nextPage =>
    rw [perform, nextPage]
    split
    · exact ⟨_, _, rfl⟩
    · -- the next page starts below the total, which is a word
      have hnext := mul_lt_total_of_lt_totalPages hs.page_pos hs.pageSize_pos (by omega)
      rw [refresh_of_fits (l := { l with page := l.page + 1, selected := 0 })
        (by simpa using Nat.lt_trans hnext ht)]
      exact ⟨_, _, rfl⟩
  | prevPage =>
    rw [perform, prevPage]
    split
    · exact ⟨_, _, rfl⟩
    · rw [refresh_of_fits (l := { l with page := l.page - 1, selected := 0 })
        (Nat.lt_of_le_of_lt (prev_offset_le l) hfit)]
      exact ⟨_, _, rfl⟩
  | cyclePageSize forward =>
    obtain ⟨size, -, hcycle⟩ := cyclePageSize_eq l forward
    rw [perform, hcycle, refresh_of_fits (hfirst size)]
    exact ⟨_, _, rfl⟩
  | cycleFilter =>
    obtain ⟨filter, hcycle⟩ := cycleFilter_eq l
    rw [perform, hcycle, refresh_of_fits (hfirst l.pageSize)]
    exact ⟨_, _, rfl⟩
  | selectNext => exact ⟨_, _, rfl⟩
  | selectPrev => exact ⟨_, _, rfl⟩
  | page seq result => exact ⟨_, _, rfl⟩

/-- Only a page changes the total, only a page size step the page size, which it
takes from the choices, and only a page or a live update the tasks. -/
theorem perform_frame (h : l.perform op = .ok (l', r?)) :
    (l'.total = l.total ∨ ∃ seq page, op = .page seq (.ok page) ∧ l'.total = page.total) ∧
      (l'.pageSize = l.pageSize ∧ (∀ forward, op ≠ .cyclePageSize forward) ∨
        (∃ forward, op = .cyclePageSize forward) ∧ l'.pageSize ∈ pageSizeChoices) ∧
      (l'.tasks = l.tasks ∨ (∃ u, op = .status u) ∨
        ∃ seq result, op = .page seq result) := by
  have hkeep : ∀ {l₁ : TaskList}, l₁.total = l.total → l₁.pageSize = l.pageSize →
      l₁.tasks = l.tasks → (∀ forward, op ≠ .cyclePageSize forward) →
      (l₁.total = l.total ∨
        ∃ seq page, op = .page seq (.ok page) ∧ l₁.total = page.total) ∧
      (l₁.pageSize = l.pageSize ∧ (∀ forward, op ≠ .cyclePageSize forward) ∨
        (∃ forward, op = .cyclePageSize forward) ∧ l₁.pageSize ∈ pageSizeChoices) ∧
      (l₁.tasks = l.tasks ∨ (∃ u, op = .status u) ∨
        ∃ seq result, op = .page seq result) :=
    fun htotal hsize htasks hother => ⟨.inl htotal, .inl ⟨hsize, hother⟩, .inl htasks⟩
  cases op with
  | refresh =>
    obtain ⟨r, -, hr⟩ := issue_map_eq_ok h
    cases refresh_fields hr
    exact hkeep rfl rfl rfl (fun _ h => by cases h)
  | status u =>
    -- the update writes only the tasks, and a refresh after it only the sequence number
    have hfields : l'.total = l.total ∧ l'.pageSize = l.pageSize := by
      obtain ⟨tasks, -, ⟨-, rfl, -⟩ | ⟨r, -, hr⟩⟩ := applyStatus_eq_ok h
      · exact ⟨rfl, rfl⟩
      · cases refresh_fields hr
        exact ⟨rfl, rfl⟩
    exact ⟨.inl hfields.1, .inl ⟨hfields.2, fun _ h => by cases h⟩,
      .inr (.inl ⟨u, rfl⟩)⟩
  | nextPage =>
    rcases nextPage_eq_ok h with ⟨-, rfl, -⟩ | ⟨-, r, -, hr⟩
    · exact hkeep rfl rfl rfl (fun _ h => by cases h)
    · cases refresh_fields hr
      exact hkeep rfl rfl rfl (fun _ h => by cases h)
  | prevPage =>
    rcases prevPage_eq_ok h with ⟨-, rfl, -⟩ | ⟨-, r, -, hr⟩
    · exact hkeep rfl rfl rfl (fun _ h => by cases h)
    · cases refresh_fields hr
      exact hkeep rfl rfl rfl (fun _ h => by cases h)
  | cyclePageSize forward =>
    obtain ⟨r, -, hr⟩ := issue_map_eq_ok h
    obtain ⟨size, hsize, hcycle⟩ := cyclePageSize_eq l forward
    rw [hcycle] at hr
    cases refresh_fields hr
    exact ⟨.inl rfl, .inr ⟨⟨forward, rfl⟩, hsize⟩, .inl rfl⟩
  | cycleFilter =>
    obtain ⟨r, -, hr⟩ := issue_map_eq_ok h
    obtain ⟨filter, hcycle⟩ := cycleFilter_eq l
    rw [hcycle] at hr
    cases refresh_fields hr
    exact hkeep rfl rfl rfl (fun _ h => by cases h)
  | selectNext =>
    cases checked_pure_eq_ok h
    unfold selectNext
    split <;> exact hkeep rfl rfl rfl (fun _ h => by cases h)
  | selectPrev =>
    cases checked_pure_eq_ok h
    exact hkeep rfl rfl rfl (fun _ h => by cases h)
  | page seq result =>
    cases checked_pure_eq_ok h
    refine ⟨?_, .inl ⟨?_, fun _ h => by cases h⟩, .inr (.inr ⟨seq, result, rfl⟩)⟩
    · rcases applyPage_cases l seq result with heq | ⟨-, page, hpage, heq⟩ | ⟨-, e, -, heq⟩
      · exact .inl (by rw [heq])
      · exact .inr ⟨seq, page, by rw [hpage], by rw [heq]⟩
      · exact .inl (by rw [heq])
    · rcases applyPage_cases l seq result with heq | ⟨-, page, -, heq⟩ | ⟨-, e, -, heq⟩ <;>
        rw [heq]

theorem checkedAfter_cases (l : TaskList) (g : Nat) (op : TaskListOp) :
    l.checkedAfter g op = g ∨ l.checkedAfter g op = l.total := by
  cases op with
  | nextPage =>
    by_cases hmore : l.page < l.totalPages
    · exact .inr (if_pos hmore)
    · exact .inl (if_neg hmore)
  | _ => exact .inl rfl

/-! ## Whole runs -/

/-- Replaying a run's operations reaches the list the run reaches. -/
theorem Run.replay_fst (h : Run l₀ ops rs l) : (ops.foldl checkStep (l₀, 0)).1 = l := by
  induction h with
  | nil => rfl
  | @snoc l₁ l₂ ops rs op r? hrun hp ih =>
    rw [List.foldl_append, List.foldl_cons, List.foldl_nil,
      show ops.foldl checkStep (l₀, 0) = (l₁, lastChecked l₀ ops) from Prod.ext ih rfl]
    simp only [checkStep, hp]

theorem lastChecked_snoc (h : Run l₀ ops rs l₁) (hp : l₁.perform op = .ok (l₂, r?)) :
    lastChecked l₀ (ops ++ [op]) = l₁.checkedAfter (lastChecked l₀ ops) op := by
  unfold lastChecked
  rw [List.foldl_append, List.foldl_cons, List.foldl_nil,
    show ops.foldl checkStep (l₀, 0) = (l₁, (ops.foldl checkStep (l₀, 0)).2) from
      Prod.ext h.replay_fst rfl]
  simp only [checkStep, hp]

/-- Soundness holds along every run from a sound list, with the total `nextPage`
last checked when it moved forward. -/
theorem Run.sound (h : Run l₀ ops rs l) (h₀ : Sound l₀ 0) :
    Sound l (lastChecked l₀ ops) := by
  induction h with
  | nil => exact h₀
  | snoc hrun hp ih =>
    rw [lastChecked_snoc hrun hp]
    exact perform_sound ih hp

/-- The requests of a run: their sequence numbers strictly increase and lie
between the start's and the list's, and the latest asks for the list's current
page. -/
structure Sequenced (l₀ : TaskList) (rs : List ListRequest) (l : TaskList) : Prop where
  seq_le : l₀.seq ≤ l.seq
  seq_mem : ∀ r ∈ rs, l₀.seq < r.seq ∧ r.seq ≤ l.seq
  increasing : rs.Pairwise (fun a b => a.seq < b.seq)
  latest : ∀ r ∈ rs.getLast?, r = l.request

theorem Sequenced.perform (hs : Sequenced l₀ rs l₁) (hp : l₁.perform op = .ok (l₂, r?)) :
    Sequenced l₀ (rs ++ r?.toList) l₂ := by
  rcases perform_request hp with ⟨rfl, hreq⟩ | ⟨rfl, hseq⟩
  · -- no request: the sequence number and the current page's request stay
    have hseq : l₂.seq = l₁.seq := congrArg ListRequest.seq hreq
    rw [Option.toList_none, List.append_nil]
    refine ⟨hseq ▸ hs.seq_le, fun r hr => hseq ▸ hs.seq_mem r hr, hs.increasing, ?_⟩
    intro r hr
    rw [hreq]
    exact hs.latest r hr
  · -- the new request is numbered past every earlier one
    rw [Option.toList_some]
    refine ⟨by have := hs.seq_le; omega, ?_, ?_, ?_⟩
    · intro r hr
      rcases List.mem_append.mp hr with hold | hnew
      · have := hs.seq_mem r hold
        omega
      · rw [List.mem_singleton.mp hnew]
        show l₀.seq < l₂.seq ∧ l₂.seq ≤ l₂.seq
        have := hs.seq_le
        omega
    · refine List.pairwise_append.mpr ⟨hs.increasing, List.pairwise_singleton _ _, ?_⟩
      intro a ha b hb
      rw [List.mem_singleton.mp hb]
      show a.seq < l₂.seq
      have := (hs.seq_mem a ha).2
      omega
    · intro r hr
      rw [List.getLast?_concat] at hr
      exact (Option.mem_some_iff.mp hr).symm

theorem Run.sequenced (h : Run l₀ ops rs l) : Sequenced l₀ rs l := by
  induction h with
  | nil =>
    exact ⟨Nat.le_refl _, (fun _ h => by cases h), List.Pairwise.nil, (fun _ h => by cases h)⟩
  | snoc _ hp ih => exact ih.perform hp

/-- Along a run whose pages all report a total that is a word, the list's total
and the total `nextPage` last checked are words. -/
theorem Run.words (h : Run l₀ ops rs l) (h₀ : l₀.total < wordBound)
    (hops : ∀ seq page, .page seq (.ok page) ∈ ops → page.total < wordBound) :
    l.total < wordBound ∧ lastChecked l₀ ops < wordBound := by
  have hzero : 0 < wordBound := by decide
  induction h with
  | nil => exact ⟨h₀, hzero⟩
  | @snoc l₁ l₂ ops rs op r? hrun hp ih =>
    obtain ⟨ht, hg⟩ := ih fun seq page hmem => hops seq page (List.mem_append_left _ hmem)
    refine ⟨?_, ?_⟩
    · rcases (perform_frame hp).1 with hsame | ⟨seq, page, rfl, htotal⟩
      · exact hsame ▸ ht
      · exact htotal ▸ hops seq page (List.mem_append_right _ (List.mem_singleton_self _))
    · rw [lastChecked_snoc hrun hp]
      rcases checkedAfter_cases l₁ (lastChecked l₀ ops) op with hkeep | htotal
      · rw [hkeep]
        exact hg
      · rw [htotal]
        exact ht

/-- Once the page size has been stepped, it is one of the choices. -/
theorem Run.pageSize_chosen (h : Run l₀ ops rs l)
    (hcycle : ∃ forward, .cyclePageSize forward ∈ ops) : l.pageSize ∈ pageSizeChoices := by
  induction h with
  | nil =>
    obtain ⟨_, hmem⟩ := hcycle
    cases hmem
  | @snoc l₁ l₂ ops rs op r? hrun hp ih =>
    rcases (perform_frame hp).2.1 with ⟨hsame, hother⟩ | ⟨-, hchosen⟩
    · -- the last operation kept the size, so an earlier one stepped it
      obtain ⟨forward, hmem⟩ := hcycle
      rcases List.mem_append.mp hmem with hearlier | hlast
      · exact hsame ▸ ih ⟨forward, hearlier⟩
      · exact absurd (List.mem_singleton.mp hlast).symm (hother forward)
    · exact hchosen

/-- A run from a new list extends by every further sequence of operations whose
pages report word totals: no refresh overflows. -/
theorem Run.extends {n : Nat} {pre : List TaskListOp} (hrun : Run (new n) pre rs l)
    (ops : List TaskListOp)
    (hops : ∀ seq page, .page seq (.ok page) ∈ pre ++ ops → page.total < wordBound) :
    ∃ rs' l', Run (new n) (pre ++ ops) rs' l' := by
  -- on the operations still to come, the run so far growing by one each time:
  -- what it reached is sound with word totals, so the next operation returns
  induction ops generalizing pre rs l with
  | nil => exact ⟨rs, l, by rw [List.append_nil]; exact hrun⟩
  | cons op ops ih =>
    obtain ⟨ht, hg⟩ := hrun.words (show 0 < wordBound by decide) fun seq page hmem =>
      hops seq page (List.mem_append_left _ hmem)
    obtain ⟨l', r?, hp⟩ := perform_returns (hrun.sound (new_sound n)) hg ht op
    have hrest := ih (hrun.snoc hp) (by rwa [List.append_assoc])
    rwa [List.append_assoc] at hrest

theorem run_returns (n : Nat) (ops : List TaskListOp)
    (hops : ∀ seq page, .page seq (.ok page) ∈ ops → page.total < wordBound) :
    ∃ rs l, Run (new n) ops rs l :=
  Run.nil.extends ops hops

/-! ## The list's invariant, the latest request, and the page range -/

/-- From a new list, after any operations with word totals, every operation returns
and the list is sound; sequence numbers increase and the latest asks for the page. -/
theorem reachable_list_sound (n : Nat) (ops : List TaskListOp)
    (hops : ∀ seq page, .page seq (.ok page) ∈ ops → page.total < wordBound) :
    ∃ rs l, Run (new n) ops rs l ∧
      1 ≤ l.page ∧ 1 ≤ l.pageSize ∧ 1 ≤ l.totalPages ∧
      (l.selected = 0 ∨ l.selected < l.tasks.length) ∧
      (l.tasks ≠ [] → l.selectedTask.isSome) ∧
      ((∃ forward, .cyclePageSize forward ∈ ops) → l.pageSize ∈ pageSizeChoices) ∧
      rs.Pairwise (fun a b => a.seq < b.seq) ∧
      ∀ r ∈ rs.getLast?, r.query.offset = (l.page - 1) * l.pageSize ∧
        r.query.offset < wordBound ∧
        (r.query.offset = 0 ∨ r.query.offset < lastChecked (new n) ops) := by
  obtain ⟨rs, l, hrun⟩ := run_returns n ops hops
  have hs := hrun.sound (new_sound n)
  have hseq := hrun.sequenced
  obtain ⟨-, hg⟩ := hrun.words (show 0 < wordBound by decide) hops
  refine ⟨rs, l, hrun, hs.page_pos, hs.pageSize_pos, Nat.le_max_right _ _, hs.selected_valid, ?_,
    hrun.pageSize_chosen, hseq.increasing, ?_⟩
  · intro hne
    -- on a non-empty page the selection is on a task, even at 0
    have hlt : l.selected < l.tasks.length := by
      rcases hs.selected_valid with h0 | hlt
      · rw [h0]
        exact List.length_pos_iff.mpr hne
      · exact hlt
    simp [selectedTask, hlt]
  · intro r hr
    rw [hseq.latest r hr]
    show (l.page - 1) * l.pageSize = (l.page - 1) * l.pageSize ∧
      (l.page - 1) * l.pageSize < wordBound ∧
      ((l.page - 1) * l.pageSize = 0 ∨ (l.page - 1) * l.pageSize < lastChecked (new n) ops)
    exact ⟨rfl, hs.offset_lt hg, hs.offset_zero_or_lt⟩

/-- A first page of 25 tasks, a step to the second page and a page size step:
the pages report word totals, and the invariant holds. -/
theorem reachable_list_sound_after_paging :
    let ops : List TaskListOp :=
      [.refresh, .page 1 (.ok ⟨[], 25⟩), .nextPage, .cyclePageSize true]
    (∀ seq page, .page seq (.ok page) ∈ ops → page.total < wordBound) ∧
    ∃ rs l, Run (new 10) ops rs l ∧
      1 ≤ l.page ∧ 1 ≤ l.pageSize ∧ 1 ≤ l.totalPages ∧
      (l.selected = 0 ∨ l.selected < l.tasks.length) ∧
      (l.tasks ≠ [] → l.selectedTask.isSome) ∧
      ((∃ forward, .cyclePageSize forward ∈ ops) → l.pageSize ∈ pageSizeChoices) ∧
      rs.Pairwise (fun a b => a.seq < b.seq) ∧
      ∀ r ∈ rs.getLast?, r.query.offset = (l.page - 1) * l.pageSize ∧
        r.query.offset < wordBound ∧
        (r.query.offset = 0 ∨ r.query.offset < lastChecked (new 10) ops) := by
  intro ops
  have hops : ∀ seq page, .page seq (.ok page) ∈ ops → page.total < wordBound := by
    intro seq page hmem
    simp only [ops, List.mem_cons, List.not_mem_nil, reduceCtorEq, TaskListOp.page.injEq,
      Except.ok.injEq, false_or, or_false] at hmem
    obtain ⟨-, rfl⟩ := hmem
    decide
  exact ⟨hops, reachable_list_sound 10 ops hops⟩

/-- Only a response to the most recent request is taken; any other is refused and
changes nothing. -/
theorem latest_reply_wins {n : Nat} {ops : List TaskListOp} {rs : List ListRequest} {l : TaskList}
    (hrun : Run (new n) ops rs l) :
    (∀ r ∈ rs.dropLast, ∀ result, l.applyPage r.seq result = (l, false)) ∧
    ∀ last ∈ rs.getLast?,
      (∀ seq result, seq ≠ last.seq → l.applyPage seq result = (l, false)) ∧
      (∀ page, l.applyPage last.seq (.ok page) =
        ({ l with total := page.total, tasks := page.tasks,
                  selected := min l.selected (page.tasks.length - 1), error := none }, true)) ∧
      (∀ e, l.applyPage last.seq (.error e) =
        ({ l with error := some ("Failed to load tasks: " ++ e.message) }, true)) := by
  have hseq := hrun.sequenced
  -- the most recent request carries the list's own sequence number
  have hlast : ∀ last ∈ rs.getLast?, last.seq = l.seq := fun last hl => by
    rw [hseq.latest last hl]
    rfl
  refine ⟨?_, fun last hl => ⟨fun seq result hne => applyPage_of_ne (hlast last hl ▸ hne),
    fun page => ?_, fun e => ?_⟩⟩
  · intro r hr result
    rcases List.eq_nil_or_concat rs with rfl | ⟨init, last, rfl⟩
    · cases hr
    · -- an earlier request is numbered below the most recent one
      rw [List.concat_eq_append] at hr hseq hlast
      rw [List.dropLast_concat] at hr
      have hlt : r.seq < last.seq :=
        (List.pairwise_append.mp hseq.increasing).2.2 r hr last (List.mem_singleton_self _)
      have hl : last.seq = l.seq := hlast last (by rw [List.getLast?_concat]; rfl)
      exact applyPage_of_ne (by omega)
  · rw [hlast last hl]
    exact applyPage_page l page
  · rw [hlast last hl]
    exact applyPage_failure l e

/-- Two refreshes in a row: the first one's response is refused. -/
theorem latest_reply_wins_after_two_refreshes :
    ∃ rs l, Run (new 10) ([] ++ [.refresh] ++ [.refresh]) rs l ∧
      ((∀ r ∈ rs.dropLast, ∀ result, l.applyPage r.seq result = (l, false)) ∧
      ∀ last ∈ rs.getLast?,
        (∀ seq result, seq ≠ last.seq → l.applyPage seq result = (l, false)) ∧
        (∀ page, l.applyPage last.seq (.ok page) =
          ({ l with total := page.total, tasks := page.tasks,
                    selected := min l.selected (page.tasks.length - 1), error := none }, true)) ∧
        (∀ e, l.applyPage last.seq (.error e) =
          ({ l with error := some ("Failed to load tasks: " ++ e.message) }, true))) := by
  have hrun : Run (new 10) ([] ++ [.refresh] ++ [.refresh]) _ _ := (Run.nil.snoc rfl).snoc rfl
  exact ⟨_, _, hrun, latest_reply_wins hrun⟩

/-- The page is within the page count, and a refresh's offset below the total, while
the total has not dropped below the one `nextPage` checked. -/
theorem page_within_total_pages {n : Nat} {ops : List TaskListOp} {rs : List ListRequest}
    {l : TaskList} (hrun : Run (new n) ops rs l) (hkept : lastChecked (new n) ops ≤ l.total) :
    l.page ≤ l.totalPages ∧
      ∀ l' r, l.refresh = .ok (l', r) → l.page = 1 ∨ r.query.offset < l.total := by
  have hs := hrun.sound (new_sound n)
  have hstart : l.page = 1 ∨ (l.page - 1) * l.pageSize < l.total :=
    hs.offset_checked.imp_right fun hlt => Nat.lt_of_lt_of_le hlt hkept
  refine ⟨(page_le_totalPages_iff hs.page_pos hs.pageSize_pos).mpr hstart, fun l' r h => ?_⟩
  obtain ⟨-, rfl, rfl⟩ := refresh_eq_ok.mp h
  exact hstart

/-- Paging forward through a list of 25 tasks keeps the total that was checked. -/
theorem page_within_total_pages_after_paging :
    ∃ rs l,
      Run (new 10) ([] ++ [.refresh] ++ [.page 1 (.ok ⟨[], 25⟩)] ++ [.nextPage]) rs l ∧
      lastChecked (new 10) ([] ++ [.refresh] ++ [.page 1 (.ok ⟨[], 25⟩)] ++ [.nextPage]) ≤
        l.total ∧
      (l.page ≤ l.totalPages ∧
        ∀ l' r, l.refresh = .ok (l', r) → l.page = 1 ∨ r.query.offset < l.total) := by
  have hrun : Run (new 10) ([] ++ [.refresh] ++ [.page 1 (.ok ⟨[], 25⟩)] ++ [.nextPage]) _ _ :=
    ((Run.nil.snoc rfl).snoc rfl).snoc rfl
  have hkept :
      lastChecked (new 10) ([] ++ [.refresh] ++ [.page 1 (.ok ⟨[], 25⟩)] ++ [.nextPage]) ≤
        (25 : Nat) := by
    decide
  exact ⟨_, _, hrun, hkept, page_within_total_pages hrun hkept⟩

/-- A total that drops under the current page leaves the page past the last one:
on the second page of 100 tasks, a response of total 5 is taken, the list reads
"Page 2 of 1", and a refresh asks for offset 10 of 5 tasks. -/
theorem page_past_last_after_total_drops :
    ∃ rs l, Run (new 10) ([] ++ [.refresh] ++ [.page 1 (.ok ⟨[], 100⟩)] ++ [.nextPage] ++
        [.page 2 (.ok ⟨[], 5⟩)]) rs l ∧
      l.page = 2 ∧ l.totalPages = 1 ∧ l.pageInfo = "Page 2 of 1 (5 total tasks)" ∧
      ∃ l' r, l.refresh = .ok (l', r) ∧ r.query.offset = 10 ∧ l.total = 5 := by
  have hrun : Run (new 10) ([] ++ [.refresh] ++ [.page 1 (.ok ⟨[], 100⟩)] ++ [.nextPage] ++
      [.page 2 (.ok ⟨[], 5⟩)]) _ _ := (((Run.nil.snoc rfl).snoc rfl).snoc rfl).snoc rfl
  exact ⟨_, _, hrun, rfl, rfl, rfl, _, _, rfl, rfl, rfl⟩

end TaskList

end TaskConsole
