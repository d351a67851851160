import TaskConsole.Proofs.TaskList.Steps

/-! Stepping through the page size choices 5, 10, 20 and 50 (`cyclePageSize_eq_stepped`);
a size between two choices is rounded up first (`cyclePageSize_steps_to_adjacent`). -/

namespace TaskConsole

namespace TaskList

/-- The index of the first choice at or above `size`, by the ranges the choices
cut. -/
theorem choiceIndex_eq (size : Nat) :
    choiceIndex size = if size ≤ 5 then 0 else if size ≤ 10 then 1 else if size ≤ 20 then 2 else 3 := by
  unfold choiceIndex pageSizeChoices
  by_cases h5 : size ≤ 5
  · simp [List.findIdx?_cons, h5]
  · by_cases h10 : size ≤ 10
    · simp [List.findIdx?_cons, h5, h10]
    · by_cases h20 : size ≤ 20
      · simp [List.findIdx?_cons, h5, h10, h20]
      · by_cases h50 : size ≤ 50 <;> simp [List.findIdx?_cons, h5, h10, h20, h50]

/-- The page size a step from `size` lands on: up, 10 from sizes to 5, 20 from
sizes to 10 and 50 from larger ones; down, 5 from sizes to 10, 10 from sizes to
20 and 20 from larger ones. -/
def steppedSize (size : Nat) (forward : Bool) : Nat :=
  if forward then (if size ≤ 5 then 10 else if size ≤ 10 then 20 else 50)
  else (if size ≤ 10 then 5 else if size ≤ 20 then 10 else 20)

/-- A page size step always returns: it lands on `steppedSize`, goes back to
page 1 with the first task selected, and asks for the first page under a new
sequence number. -/
theorem cyclePageSize_eq_stepped (l : TaskList) (forward : Bool) :
    l.cyclePageSize forward =
      .ok ({ l with pageSize := steppedSize l.pageSize forward, page := 1, selected := 0,
                    seq := l.seq + 1 },
        ⟨l.seq + 1, ⟨0, steppedSize l.pageSize forward, l.filter⟩⟩) := by
  have hsize : pageSizeChoices.getD
      (if forward then min (choiceIndex l.pageSize + 1) (pageSizeChoices.length - 1)
        else choiceIndex l.pageSize - 1) 1 = steppedSize l.pageSize forward := by
    rw [choiceIndex_eq]
    unfold steppedSize
    -- the index is one of four, and each lands on one choice
    by_cases h5 : l.pageSize ≤ 5
    · have h10 : l.pageSize ≤ 10 := by omega
      cases forward <;> simp [h5, h10, pageSizeChoices]
    · by_cases h10 : l.pageSize ≤ 10
      · cases forward <;> simp [h5, h10, pageSizeChoices]
      · by_cases h20 : l.pageSize ≤ 20 <;> cases forward <;> simp [h5, h10, h20, pageSizeChoices]
  unfold cyclePageSize
  dsimp only
  rw [hsize, refresh_of_fits (by simp; decide)]
  -- page 1 starts at offset 0
  simp [request]

/-- Stepping up from `size` to `size'`: never to a smaller size, and to the
smallest choice above `size` when there is one. -/
def StepsUp (size size' : Nat) : Prop :=
  size ≤ size' ∧ ∀ c ∈ pageSizeChoices, size < c → size' ∈ pageSizeChoices ∧ size < size' ∧ size' ≤ c

/-- Stepping down from `size` to `size'`: never to a larger size, and to the
largest choice below `size` when there is one. -/
def StepsDown (size size' : Nat) : Prop :=
  size' ≤ size ∧ ∀ c ∈ pageSizeChoices, c < size → size' ∈ pageSizeChoices ∧ size' < size ∧ c ≤ size'

theorem stepsUp_steppedSize {size : Nat}
    (h : size = 5 ∨ size = 10 ∨ 20 ≤ size ∧ size ≤ 50) : StepsUp size (steppedSize size true) := by
  unfold StepsUp steppedSize pageSizeChoices
  rcases h with rfl | rfl | ⟨hlo, hhi⟩
  · decide
  · decide
  · -- from 20 on, the only choice above is 50
    simp only [if_true, List.mem_cons, List.not_mem_nil, or_false]
    rw [if_neg (by omega), if_neg (by omega)]
    refine ⟨hhi, fun c hc hlt => ⟨by simp, by omega, by omega⟩⟩

theorem stepsDown_steppedSize {size : Nat}
    (h : size = 5 ∨ size = 10 ∨ 20 ≤ size ∧ size ≤ 50) :
    StepsDown size (steppedSize size false) := by
  unfold StepsDown steppedSize pageSizeChoices
  rcases h with rfl | rfl | ⟨hlo, hhi⟩
  · decide
  · decide
  · simp only [Bool.false_eq_true, if_false, List.mem_cons, List.not_mem_nil, or_false]
    rw [if_neg (by omega)]
    by_cases h20 : size ≤ 20
    · -- from 20, the largest choice below is 10
      rw [if_pos h20]
      exact ⟨by omega, fun c hc hlt => ⟨by simp, by omega, by omega⟩⟩
    · -- above 20, the largest choice below is 20, or 50 itself is not below
      rw [if_neg h20]
      exact ⟨by omega, fun c hc hlt => ⟨by simp, by omega, by omega⟩⟩

/-- For the sizes 5, 10 and 20 to 50, a step goes to the adjacent choice, back to
page 1 with the first task selected, under a new sequence number. -/
theorem cyclePageSize_steps_to_adjacent (l : TaskList)
    (h : l.pageSize = 5 ∨ l.pageSize = 10 ∨ 20 ≤ l.pageSize ∧ l.pageSize ≤ 50) :
    ∀ forward, ∃ l' r, l.cyclePageSize forward = .ok (l', r) ∧
      (if forward then StepsUp l.pageSize l'.pageSize else StepsDown l.pageSize l'.pageSize) ∧
      l'.page = 1 ∧ l'.selected = 0 ∧
      l' = { l with pageSize := l'.pageSize, page := 1, selected := 0, seq := l.seq + 1 } ∧
      r = ⟨l.seq + 1, ⟨0, l'.pageSize, l.filter⟩⟩ := by
  intro forward
  refine ⟨_, _, cyclePageSize_eq_stepped l forward, ?_, rfl, rfl, rfl, rfl⟩
  cases forward
  · exact stepsDown_steppedSize h
  · exact stepsUp_steppedSize h

/-- Stepping up from the page size 30 lands on 50. -/
theorem cyclePageSize_steps_to_adjacent_thirty :
    ((TaskList.new 30).pageSize = 5 ∨ (TaskList.new 30).pageSize = 10 ∨
        20 ≤ (TaskList.new 30).pageSize ∧ (TaskList.new 30).pageSize ≤ 50) ∧
      ∃ l' r, (TaskList.new 30).cyclePageSize true = .ok (l', r) ∧ StepsUp 30 l'.pageSize ∧
        l'.pageSize = 50 := by
  have h : (TaskList.new 30).pageSize = 5 ∨ (TaskList.new 30).pageSize = 10 ∨
      20 ≤ (TaskList.new 30).pageSize ∧ (TaskList.new 30).pageSize ≤ 50 := by decide
  obtain ⟨l', r, hc, hsteps, -⟩ := cyclePageSize_steps_to_adjacent _ h true
  refine ⟨h, l', r, hc, hsteps, ?_⟩
  rw [cyclePageSize_eq_stepped] at hc
  cases hc
  rfl

/-- Stepping up from the page size 7 skips the choice 10 and lands on 20. -/
theorem cyclePageSize_up_from_seven_skips_ten :
    ∃ l' r, (TaskList.new 7).cyclePageSize true = .ok (l', r) ∧ l'.pageSize = 20 ∧
      ¬ StepsUp 7 l'.pageSize := by
  refine ⟨_, _, cyclePageSize_eq_stepped _ true, rfl, fun h => ?_⟩
  -- 10 is a choice above 7, and 20 is not at most 10
  have := (h.2 10 (by decide) (by decide)).2.2
  exact absurd this (by decide)

end TaskList

end TaskConsole
