import TaskConsole.Log.LineMap

/-! What the operations of a line map do to its lines: an insertion adds its line
and drops at most the line of the same number, so a map built by insertions
holds only lines it was given, and its numbers are exactly the numbers given. -/

namespace TaskConsole

theorem mem_numbers_insertAscending {l : LogLine} {xs : List LogLine} {n : Nat} :
    n ∈ (insertAscending l xs).map (·.number) ↔ n = l.number ∨ n ∈ xs.map (·.number) := by
  induction xs with
  | nil => simp [insertAscending]
  | cons x xs ih =>
    simp only [insertAscending]
    split
    · simp
    · split
      · rename_i heq
        simp only [List.map_cons, List.mem_cons]
        constructor
        · rintro (h | h)
          · exact .inl h
          · exact .inr (.inr h)
        · rintro (h | h | h)
          · exact .inl h
          · exact .inl (h.trans heq.symm)
          · exact .inr h
      · simp only [List.map_cons, List.mem_cons, ih]
        exact or_left_comm

theorem length_insertAscending_le (l : LogLine) (xs : List LogLine) :
    (insertAscending l xs).length ≤ xs.length + 1 := by
  induction xs with
  | nil => simp [insertAscending]
  | cons x xs ih =>
    simp only [insertAscending]
    split
    · simp
    · split
      · simp
      · simp only [List.length_cons]
        omega

theorem length_le_insertAscending (l : LogLine) (xs : List LogLine) :
    xs.length ≤ (insertAscending l xs).length := by
  induction xs with
  | nil => simp
  | cons x xs ih =>
    simp only [insertAscending]
    split
    · simp
    · split
      · simp
      · simp only [List.length_cons]
        omega

/-- In an ascending list the first line has the least number. -/
theorem Ascending.head_le {xs : List LogLine} {x y : LogLine} (h : Ascending xs)
    (hx : xs.head? = some x) (hy : y ∈ xs) : x.number ≤ y.number := by
  obtain ⟨ys, rfl⟩ := List.head?_eq_some_iff.mp hx
  rcases List.mem_cons.mp hy with rfl | hy
  · exact Nat.le_refl _
  · exact Nat.le_of_lt ((List.pairwise_cons.mp h).1 y hy)

/-- In an ascending list the last line has the greatest number. -/
theorem Ascending.le_getLast {xs : List LogLine} {y z : LogLine} (h : Ascending xs)
    (hz : xs.getLast? = some z) (hy : y ∈ xs) : y.number ≤ z.number := by
  obtain ⟨ys, rfl⟩ := List.getLast?_eq_some_iff.mp hz
  have hpair : (ys ++ [z]).Pairwise (fun a b => a.number < b.number) := h
  rcases List.mem_append.mp hy with hy | hy
  · exact Nat.le_of_lt (hpair.rel_of_mem_append hy (List.mem_singleton_self z))
  · obtain rfl := List.mem_singleton.mp hy
    exact Nat.le_refl _

/-- A strictly ascending list of numbers that holds exactly `a` to `a + k - 1`
is that run of numbers. -/
theorem eq_range'_of_mem_iff {l : List Nat} {a k : Nat} (hl : l.Pairwise (· < ·))
    (hmem : ∀ n, n ∈ l ↔ a ≤ n ∧ n < a + k) : l = List.range' a k := by
  induction k generalizing a l with
  | zero =>
    refine List.eq_nil_iff_forall_not_mem.mpr fun n hn => ?_
    have := (hmem n).mp hn
    omega
  | succ k ih =>
    have ha : a ∈ l := (hmem a).mpr ⟨Nat.le_refl a, by omega⟩
    cases l with
    | nil => exact absurd ha List.not_mem_nil
    | cons x xs =>
      obtain ⟨hx, hxs⟩ := List.pairwise_cons.mp hl
      -- the head is below every other member, so it is the least one, `a`
      have hxa : x = a := by
        have hax := ((hmem x).mp List.mem_cons_self).1
        rcases List.mem_cons.mp ha with h | h
        · exact h.symm
        · have := hx a h
          omega
      subst hxa
      have hrest : ∀ n, n ∈ xs ↔ x + 1 ≤ n ∧ n < x + 1 + k := by
        intro n
        constructor
        · intro hn
          have := (hmem n).mp (List.mem_cons_of_mem _ hn)
          have := hx n hn
          omega
        · intro hn
          rcases List.mem_cons.mp ((hmem n).mpr (by omega)) with h | h
          · omega
          · exact h
      rw [ih hxs hrest, List.range'_succ]

/-- A line numbered above every line of an ascending list goes at its end. -/
theorem insertAscending_of_lt {l : LogLine} {xs : List LogLine}
    (h : ∀ x ∈ xs, x.number < l.number) : insertAscending l xs = xs ++ [l] := by
  induction xs with
  | nil => rfl
  | cons x xs ih =>
    have hx := h x List.mem_cons_self
    simp only [insertAscending, List.cons_append]
    rw [if_neg (by omega), if_neg (by omega), ih fun y hy => h y (List.mem_cons_of_mem _ hy)]

namespace LineMap

@[simp] theorem size_empty : empty.size = 0 := rfl

@[simp] theorem insertAll_nil (m : LineMap) : m.insertAll [] = m := rfl

theorem insertAll_cons (m : LineMap) (l : LogLine) (ls : List LogLine) :
    m.insertAll (l :: ls) = (m.insert l).insertAll ls := rfl

theorem mem_insert {m : LineMap} {l y : LogLine} (h : y ∈ (m.insert l).lines) :
    y = l ∨ y ∈ m.lines :=
  mem_insertAscending h

/-- An inserted batch brings no line of its own. -/
theorem mem_insertAll {m : LineMap} {ls : List LogLine} {y : LogLine}
    (h : y ∈ (m.insertAll ls).lines) : y ∈ m.lines ∨ y ∈ ls := by
  induction ls generalizing m with
  | nil => exact .inl h
  | cons l ls ih =>
    rw [insertAll_cons] at h
    rcases ih h with h' | h'
    · rcases mem_insert h' with rfl | h''
      · exact .inr List.mem_cons_self
      · exact .inl h''
    · exact .inr (List.mem_cons_of_mem _ h')

theorem mem_ofList {ls : List LogLine} {y : LogLine} (h : y ∈ (ofList ls).lines) : y ∈ ls := by
  rcases mem_insertAll h with h | h
  · cases h
  · exact h

/-- An ascending batch numbered above every line of the map is appended to it. -/
theorem insertAll_lines_of_above {m : LineMap} {ls : List LogLine} (hasc : Ascending ls)
    (habove : ∀ x ∈ m.lines, ∀ y ∈ ls, x.number < y.number) :
    (m.insertAll ls).lines = m.lines ++ ls := by
  induction ls generalizing m with
  | nil => simp
  | cons l ls ih =>
    obtain ⟨hl, hls⟩ := List.pairwise_cons.mp hasc
    -- the first line goes after the whole map, and the rest after it
    have hnext : ∀ x ∈ (m.insert l).lines, ∀ y ∈ ls, x.number < y.number := by
      intro x hx y hy
      rcases mem_insert hx with rfl | hx
      · exact hl y hy
      · exact habove x hx y (List.mem_cons_of_mem _ hy)
    rw [insertAll_cons, ih hls hnext, insert_lines,
      insertAscending_of_lt fun x hx => habove x hx l List.mem_cons_self, List.append_assoc]
    rfl

/-- The map of an ascending list holds that list. -/
theorem ofList_lines {ls : List LogLine} (hasc : Ascending ls) : (ofList ls).lines = ls :=
  insertAll_lines_of_above hasc fun _ hx => by cases hx

theorem mem_numbers_insertAll {m : LineMap} {ls : List LogLine} {n : Nat} :
    n ∈ (m.insertAll ls).numbers ↔ n ∈ m.numbers ∨ n ∈ ls.map (·.number) := by
  induction ls generalizing m with
  | nil => simp
  | cons l ls ih =>
    rw [insertAll_cons, ih]
    simp only [numbers, insert_lines, mem_numbers_insertAscending, List.map_cons,
      List.mem_cons]
    rw [or_comm (a := n = l.number), or_assoc]

theorem size_insertAll_le (m : LineMap) (ls : List LogLine) :
    (m.insertAll ls).size ≤ m.size + ls.length := by
  induction ls generalizing m with
  | nil => simp
  | cons l ls ih =>
    rw [insertAll_cons]
    have hl := length_insertAscending_le l m.lines
    have hrest := ih (m.insert l)
    simp only [size, insert_lines, List.length_cons] at hl hrest ⊢
    omega

theorem size_le_insertAll (m : LineMap) (ls : List LogLine) :
    m.size ≤ (m.insertAll ls).size := by
  induction ls generalizing m with
  | nil => simp
  | cons l ls ih =>
    rw [insertAll_cons]
    exact Nat.le_trans (length_le_insertAscending l m.lines) (ih (m.insert l))

/-- A non-empty batch leaves the map non-empty. -/
theorem size_insertAll_pos {m : LineMap} {ls : List LogLine} (h : ls ≠ []) :
    0 < (m.insertAll ls).size := by
  obtain ⟨l, ls, rfl⟩ := List.exists_cons_of_ne_nil h
  rw [insertAll_cons]
  refine Nat.lt_of_lt_of_le ?_ (size_le_insertAll _ _)
  have : insertAscending l m.lines ≠ [] := by
    cases hm : m.lines with
    | nil => simp [insertAscending]
    | cons x xs =>
      simp only [insertAscending]
      split
      · simp
      · split <;> simp
  simpa [size, List.length_pos_iff] using this

theorem numbers_pairwise (m : LineMap) : m.numbers.Pairwise (· < ·) :=
  List.pairwise_map.mpr m.ordered

theorem ext_lines {m m' : LineMap} (h : m.lines = m'.lines) : m = m' := by
  cases m
  cases m'
  cases h
  rfl

/-- A map holding exactly the numbers `a` to `b` holds each of them once, in order. -/
theorem numbers_eq_range' {m : LineMap} {a b : Nat} (h : ∀ n, n ∈ m.numbers ↔ a ≤ n ∧ n ≤ b) :
    m.numbers = List.range' a (b + 1 - a) :=
  eq_range'_of_mem_iff m.numbers_pairwise fun n => by rw [h n]; omega

theorem size_eq_of_mem_iff {m : LineMap} {a b : Nat} (h : ∀ n, n ∈ m.numbers ↔ a ≤ n ∧ n ≤ b) :
    m.size = b + 1 - a := by
  have hlen := congrArg List.length (numbers_eq_range' h)
  simpa [numbers, size] using hlen

/-- Keeping `min size k` lines of a map that has at most `k` keeps the whole map. -/
theorem eq_of_sublist_of_fits {d m : LineMap} {k : Nat} (hsub : List.Sublist d.lines m.lines)
    (hsize : d.size = min m.size k) (hfit : m.size ≤ k) : d = m := by
  refine ext_lines (hsub.eq_of_length ?_)
  show d.size = m.size
  rw [hsize, Nat.min_eq_left hfit]

theorem mem_splitAt_snd_iff {m : LineMap} {k : Nat} {y : LogLine} :
    y ∈ (m.splitAt k).2.lines ↔ y ∈ m.lines ∧ k ≤ y.number := by
  simp [splitAt]

theorem splitAt_snd_sublist (m : LineMap) (k : Nat) : List.Sublist (m.splitAt k).2.lines m.lines :=
  List.filter_sublist

theorem dropFirst_sublist (m : LineMap) : List.Sublist m.dropFirst.lines m.lines :=
  List.tail_sublist _

theorem dropLast_sublist (m : LineMap) : List.Sublist m.dropLast.lines m.lines :=
  List.dropLast_sublist _

end LineMap

end TaskConsole
