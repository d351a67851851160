import TaskConsole.Proofs.Window.TailMerge

/-! A line's index in a map is the count of numbers below it, so a splice keeps the
line in view when its lines go in above it (`Window.commitPrefetch_keeps_anchor`). -/

namespace TaskConsole

theorem eraseDups_nodup {α : Type} [BEq α] [LawfulBEq α] : ∀ l : List α, l.eraseDups.Nodup
  | [] => List.nodup_nil
  | a :: as => by
    rw [List.eraseDups_cons]
    refine List.nodup_cons.mpr ⟨fun h => ?_, eraseDups_nodup _⟩
    simp [List.mem_eraseDups] at h
termination_by l => l.length
decreasing_by
  simp only [List.length_cons]
  exact Nat.lt_succ_of_le (List.length_filter_le _ _)

/-- In a strictly ascending list, the entry at index `k` is the one with `k`
entries below it. -/
theorem getElem?_eq_some_iff_count {xs : List Nat} (h : xs.Pairwise (· < ·)) {k n : Nat} :
    xs[k]? = some n ↔ n ∈ xs ∧ (xs.filter (· < n)).length = k := by
  induction xs generalizing k with
  | nil => simp
  | cons x xs ih =>
    obtain ⟨hx, hxs⟩ := List.pairwise_cons.mp h
    -- the entries below any later entry include the head
    have hbelow : ∀ n ∈ xs, ((x :: xs).filter (· < n)).length = (xs.filter (· < n)).length + 1 :=
      fun n hn => by simp [hx n hn]
    have hnone : (xs.filter (· < x)).length = 0 := by
      simp only [List.length_eq_zero_iff, List.filter_eq_nil_iff, decide_eq_true_eq]
      exact fun y hy => Nat.not_lt.mpr (Nat.le_of_lt (hx y hy))
    cases k with
    | zero =>
      simp only [List.getElem?_cons_zero, Option.some.injEq, List.mem_cons]
      constructor
      · rintro rfl
        simpa [List.filter_cons] using hnone
      · rintro ⟨rfl | hn, hcount⟩
        · rfl
        · rw [hbelow n hn] at hcount
          omega
    | succ k =>
      simp only [List.getElem?_cons_succ, List.mem_cons, ih hxs]
      constructor
      · rintro ⟨hn, hcount⟩
        exact ⟨.inr hn, by rw [hbelow n hn, hcount]⟩
      · rintro ⟨rfl | hn, hcount⟩
        · simp [hnone] at hcount
        · rw [hbelow n hn] at hcount
          exact ⟨hn, by omega⟩

namespace LineMap

theorem numbers_nodup (m : LineMap) : m.numbers.Nodup :=
  m.numbers_pairwise.imp Nat.ne_of_lt

theorem contains_iff {m : LineMap} {n : Nat} : m.contains n = true ↔ n ∈ m.numbers := by
  simp [contains, numbers]

/-- The line at index `k` of a map is the one with `k` lines numbered below it. -/
theorem getElem?_lines_eq_some {m : LineMap} {k n : Nat} :
    (m.lines[k]?).map (·.number) = some n ↔
      n ∈ m.numbers ∧ (m.numbers.filter (· < n)).length = k := by
  rw [← List.getElem?_map]
  exact getElem?_eq_some_iff_count m.numbers_pairwise

/-- Two maps holding the same numbers below `n` have as many lines below `n`. -/
theorem count_below_eq {m m' : LineMap} {n : Nat} (h : ∀ k < n, k ∈ m.numbers ↔ k ∈ m'.numbers) :
    (m.numbers.filter (· < n)).length = (m'.numbers.filter (· < n)).length := by
  apply List.Perm.length_eq
  rw [List.perm_ext_iff_of_nodup (m.numbers_nodup.sublist List.filter_sublist)
    (m'.numbers_nodup.sublist List.filter_sublist)]
  intro k
  simp only [List.mem_filter, decide_eq_true_eq]
  constructor
  · rintro ⟨hk, hlt⟩
    exact ⟨(h k hlt).mp hk, hlt⟩
  · rintro ⟨hk, hlt⟩
    exact ⟨(h k hlt).mpr hk, hlt⟩

/-- The numbers a batch adds to a map: those of its lines the map does not
hold, each once. -/
def added (m : LineMap) (ls : List LogLine) : List Nat :=
  (ls.map (·.number)).eraseDups.filter (!m.contains ·)

theorem mem_added {m : LineMap} {ls : List LogLine} {k : Nat} :
    k ∈ m.added ls ↔ k ∈ ls.map (·.number) ∧ k ∉ m.numbers := by
  rw [added, List.mem_filter, List.mem_eraseDups, Bool.not_eq_true', Bool.eq_false_iff, Ne,
    contains_iff]

/-- Inserting a batch adds its new numbers to the map's. -/
theorem numbers_insertAll_perm (m : LineMap) (ls : List LogLine) :
    (m.insertAll ls).numbers.Perm (m.numbers ++ m.added ls) := by
  have hadded : (m.added ls).Nodup := (eraseDups_nodup _).sublist List.filter_sublist
  have happend : (m.numbers ++ m.added ls).Nodup :=
    List.nodup_append.mpr ⟨m.numbers_nodup, hadded, fun a ha b hb hab => by
      subst hab
      exact (mem_added.mp hb).2 ha⟩
  rw [List.perm_ext_iff_of_nodup (m.insertAll ls).numbers_nodup happend]
  intro k
  rw [mem_numbers_insertAll, List.mem_append, mem_added]
  by_cases hk : k ∈ m.numbers <;> simp [hk]

/-- A batch grows a map by one line per number it adds. -/
theorem size_insertAll (m : LineMap) (ls : List LogLine) :
    (m.insertAll ls).size = m.size + (m.added ls).length := by
  have h := (numbers_insertAll_perm m ls).length_eq
  simpa [numbers, size] using h

/-- A batch whose new numbers are all below `n` moves the lines below `n` up by
the count it adds. -/
theorem count_below_insertAll {m : LineMap} {ls : List LogLine} {n : Nat}
    (h : ∀ k ∈ m.added ls, k < n) :
    ((m.insertAll ls).numbers.filter (· < n)).length =
      (m.numbers.filter (· < n)).length + (m.added ls).length := by
  have hperm := ((numbers_insertAll_perm m ls).filter (fun k => decide (k < n))).length_eq
  rw [List.filter_append, List.length_append] at hperm
  rw [hperm, List.filter_eq_self.mpr fun k hk => decide_eq_true (h k hk)]

end LineMap

namespace Window

variable {w w' : Window}

/-- Pruning from the bottom keeps the first `maxDisplayLines` lines and the
scroll offset. -/
theorem pruneWith_bottom {fuel count count' : Nat} {v v' : Window}
    (h : pruneWith .bottom fuel v count = .ok (v', count'))
    (hfuel : v.display.size ≤ fuel + v.config.maxDisplayLines) :
    ∃ d, v' = { v with display := d } ∧ d.lines = v.display.lines.take v.config.maxDisplayLines := by
  induction fuel generalizing v count with
  | zero =>
    obtain ⟨rfl, rfl⟩ : v' = v ∧ count' = count := by
      cases h
      exact ⟨rfl, rfl⟩
    exact ⟨v'.display, rfl,
      (List.take_of_length_le (by simp only [LineMap.size] at hfuel; omega)).symm⟩
  | succ fuel ih =>
    unfold pruneWith at h
    split at h
    · rename_i hover
      obtain ⟨v₁, hstep, h⟩ := checked_bind_eq_ok h
      -- a step from the bottom drops the last line and keeps the offset
      have hv₁ : v₁ = { v with display := v.display.dropLast } := by
        obtain ⟨reach, -, hstep⟩ := checked_bind_eq_ok hstep
        simp only [reduceCtorEq, false_and, if_false] at hstep
        exact (checked_pure_eq_ok hstep).symm
      subst hv₁
      obtain ⟨d, rfl, hd⟩ := ih h (by simp only [LineMap.size, LineMap.dropLast] at hfuel ⊢; simp; omega)
      refine ⟨d, rfl, ?_⟩
      rw [hd]
      simp only [LineMap.dropLast, List.dropLast_eq_take, List.take_take]
      congr 1
      simp only [LineMap.size] at hover
      omega
    · rename_i hfits
      obtain ⟨rfl, rfl⟩ : v' = v ∧ count' = count := by
        cases h
        exact ⟨rfl, rfl⟩
      exact ⟨v'.display, rfl,
        (List.take_of_length_le (by simp only [LineMap.size] at hfits; omega)).symm⟩

/-- A splice moves the scroll offset down by a line height per number it adds,
and the bottom's prune keeps the first `maxDisplayLines` lines of the result. -/
theorem commitPrefetch_spliced {p : StagedLines} {b : Bool} (hp : w.pending = some p)
    (h : w.commitPrefetch = .ok (w', b)) :
    w'.scroll = w.scroll + (w.display.added p.lines).length * w.config.lineHeight ∧
      w'.display.lines = (w.display.insertAll p.lines).lines.take w.config.maxDisplayLines := by
  unfold commitPrefetch at h
  rw [hp] at h
  obtain ⟨shift, hshift, h⟩ := checked_bind_eq_ok h
  obtain ⟨-, rfl⟩ := Word.mul_eq_ok_iff.mp hshift
  obtain ⟨scroll, hscroll, h⟩ := checked_bind_eq_ok h
  obtain ⟨-, rfl⟩ := Word.add_eq_ok_iff.mp hscroll
  obtain ⟨⟨w₁, count⟩, hprune, h⟩ := checked_bind_eq_ok h
  cases h
  obtain ⟨d, rfl, hd⟩ := pruneWith_bottom hprune (Nat.le_add_right _ _)
  exact ⟨rfl, hd⟩

/-- A splice keeps the line in view when every line it adds goes in above it and
the bottom's prune leaves it. -/
theorem commitPrefetch_keeps_anchor {p : StagedLines} {b : Bool} {l : LogLine}
    (hp : w.pending = some p) (h : w.commitPrefetch = .ok (w', b)) (hlh : 0 < w.config.lineHeight)
    (hanchor : w.display.lines[w.firstVisible]? = some l)
    (hbelow : ∀ s ∈ p.lines, s.number ∉ w.display.numbers → s.number < l.number)
    (hroom : w.firstVisible + (w.display.added p.lines).length < w.config.maxDisplayLines) :
    (w'.display.lines[w'.firstVisible]?).map (·.number) = some l.number := by
  obtain ⟨hscroll, hlines⟩ := commitPrefetch_spliced hp h
  -- the offset moves down by exactly the lines added above
  have hfirst : w'.firstVisible = w.firstVisible + (w.display.added p.lines).length := by
    simp only [firstVisible, hscroll, commitPrefetch_config h]
    exact Nat.add_mul_div_right _ _ hlh
  obtain ⟨hmem, hcount⟩ := LineMap.getElem?_lines_eq_some.mp (by rw [hanchor]; rfl :
    (w.display.lines[w.firstVisible]?).map (·.number) = some l.number)
  have hspliced : (((w.display.insertAll p.lines).lines)[w.firstVisible +
      (w.display.added p.lines).length]?).map (·.number) = some l.number := by
    rw [LineMap.getElem?_lines_eq_some]
    refine ⟨LineMap.mem_numbers_insertAll.mpr (.inl hmem), ?_⟩
    rw [LineMap.count_below_insertAll fun k hk => ?_, hcount]
    obtain ⟨hk, hnot⟩ := LineMap.mem_added.mp hk
    obtain ⟨s, hs, rfl⟩ := List.mem_map.mp hk
    exact hbelow s hs hnot
  rw [hfirst, hlines, List.getElem?_take, if_pos hroom]
  exact hspliced

end Window

end TaskConsole
