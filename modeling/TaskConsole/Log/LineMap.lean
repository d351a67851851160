import TaskConsole.Log.Line

/-! Line maps: at most one line per number, ascending, the order kept in the type
(`ordered`); `insert_lines` says what an insertion does to `lines`. -/

namespace TaskConsole

/-- Ascending by number: the order of the lines of a `LineMap`. -/
def Ascending (xs : List LogLine) : Prop :=
  xs.Pairwise (fun a b => a.number < b.number)

/-- Insert a line into an ascending list, replacing the line of the same number. -/
def insertAscending (l : LogLine) : List LogLine → List LogLine
  | [] => [l]
  | x :: xs =>
    if l.number < x.number then l :: x :: xs
    else if l.number = x.number then l :: xs
    else x :: insertAscending l xs

theorem mem_insertAscending {l y : LogLine} {xs : List LogLine}
    (h : y ∈ insertAscending l xs) : y = l ∨ y ∈ xs := by
  induction xs with
  | nil => simpa [insertAscending] using h
  | cons x xs ih =>
    simp only [insertAscending] at h
    split at h
    · simpa using h
    · split at h
      · simp only [List.mem_cons] at h
        rcases h with h | h
        · exact .inl h
        · exact .inr (List.mem_cons_of_mem _ h)
      · simp only [List.mem_cons] at h
        rcases h with h | h
        · exact .inr (h ▸ List.mem_cons_self)
        · rcases ih h with h' | h'
          · exact .inl h'
          · exact .inr (List.mem_cons_of_mem _ h')

theorem ascending_insertAscending (l : LogLine) {xs : List LogLine} (h : Ascending xs) :
    Ascending (insertAscending l xs) := by
  induction xs with
  | nil => simp [insertAscending, Ascending]
  | cons x xs ih =>
    have hx : ∀ y ∈ xs, x.number < y.number := (List.pairwise_cons.mp h).1
    have hxs : Ascending xs := (List.pairwise_cons.mp h).2
    unfold insertAscending
    split
    · exact List.Pairwise.cons (fun y hy => by
        rcases List.mem_cons.mp hy with rfl | hy
        · assumption
        · exact Nat.lt_trans (by assumption) (hx y hy)) h
    · split
      · rename_i heq
        exact List.Pairwise.cons (fun y hy => heq ▸ hx y hy) hxs
      · refine List.Pairwise.cons (fun y hy => ?_) (ih hxs)
        rcases mem_insertAscending hy with rfl | hy
        · omega
        · exact hx y hy

/-- Log lines keyed by number, ascending, at most one per number. -/
structure LineMap where
  lines : List LogLine
  ordered : Ascending lines

namespace LineMap

/-- The map without lines. -/
def empty : LineMap := ⟨[], List.Pairwise.nil⟩

instance : Inhabited LineMap := ⟨empty⟩

/-- How many lines the map holds. -/
def size (m : LineMap) : Nat := m.lines.length

/-- The numbers held, ascending. -/
def numbers (m : LineMap) : List Nat := m.lines.map (·.number)

/-- Whether a line of number `n` is held. -/
def contains (m : LineMap) (n : Nat) : Bool := m.lines.any (·.number == n)

/-- Add `l`, replacing the line of the same number if there is one. -/
def insert (m : LineMap) (l : LogLine) : LineMap :=
  ⟨insertAscending l m.lines, ascending_insertAscending l m.ordered⟩

/-- Insert the lines of a list in order; of two lines with one number, the later stays. -/
def insertAll (m : LineMap) (ls : List LogLine) : LineMap :=
  ls.foldl insert m

/-- The map of a list of lines; of two lines with one number, the later stays. -/
def ofList (ls : List LogLine) : LineMap :=
  empty.insertAll ls

/-- The lines numbered below `k`, and those numbered `k` or more. -/
def splitAt (m : LineMap) (k : Nat) : LineMap × LineMap :=
  (⟨m.lines.filter (·.number < k), m.ordered.filter _⟩,
   ⟨m.lines.filter (fun l => !(l.number < k)), m.ordered.filter _⟩)

/-- The map without its lowest-numbered line. -/
def dropFirst (m : LineMap) : LineMap :=
  ⟨m.lines.tail, m.ordered.sublist (List.tail_sublist _)⟩

/-- The map without its highest-numbered line. -/
def dropLast (m : LineMap) : LineMap :=
  ⟨m.lines.dropLast, m.ordered.sublist (List.dropLast_sublist _)⟩

@[simp] theorem lines_empty : empty.lines = [] := rfl

@[simp] theorem insert_lines (m : LineMap) (l : LogLine) :
    (m.insert l).lines = insertAscending l m.lines := rfl

@[simp] theorem size_dropFirst (m : LineMap) : m.dropFirst.size = m.size - 1 := by
  simp [dropFirst, size]

@[simp] theorem size_dropLast (m : LineMap) : m.dropLast.size = m.size - 1 := by
  simp [dropLast, size]

end LineMap

end TaskConsole
