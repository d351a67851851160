import TaskConsole.Proofs.Window.Room

/-! Flushing streamed lines is inserting them in arrival order, then pruning a run from
each end (`Window.flush_inserts_in_arrival_order`); four lines of a quarter-word
height overflow (`Session.flush_tall_lines_overflow`). -/

namespace TaskConsole

/-- In an ascending list, two lines of one number are one line. -/
theorem Ascending.eq_of_number_eq {xs : List LogLine} (h : Ascending xs) {a b : LogLine}
    (ha : a ∈ xs) (hb : b ∈ xs) (hab : a.number = b.number) : a = b := by
  induction xs with
  | nil => cases ha
  | cons x xs ih =>
    obtain ⟨hx, hxs⟩ := List.pairwise_cons.mp h
    rcases List.mem_cons.mp ha with rfl | ha' <;> rcases List.mem_cons.mp hb with rfl | hb'
    · rfl
    · have := hx b hb'
      omega
    · have := hx a ha'
      omega
    · exact ih hxs ha' hb'

theorem find?_insertAscending (l : LogLine) (xs : List LogLine) (n : Nat) :
    (insertAscending l xs).find? (·.number == n) =
      if l.number = n then some l else xs.find? (·.number == n) := by
  induction xs with
  | nil => by_cases h : l.number = n <;> simp [insertAscending, h]
  | cons x xs ih =>
    unfold insertAscending
    split
    · by_cases h : l.number = n <;> simp [h]
    · split
      · rename_i heq
        by_cases h : l.number = n <;> simp [h, ← heq]
      · rename_i hne
        by_cases hx : x.number = n <;> by_cases hl : l.number = n
        · exact absurd (hl.trans hx.symm) hne
        all_goals simp [hx, hl, ih]

namespace LineMap

/-- The line of number `n`, if the map holds one. -/
def find (m : LineMap) (n : Nat) : Option LogLine :=
  m.lines.find? (·.number == n)

@[simp] theorem find_insert (m : LineMap) (l : LogLine) (n : Nat) :
    (m.insert l).find n = if l.number = n then some l else m.find n :=
  find?_insertAscending l m.lines n

/-- After a batch, the line of each number is the last of the batch's lines of
that number, or the map's own when the batch has none. -/
theorem find_insertAll (m : LineMap) (ls : List LogLine) (n : Nat) :
    (m.insertAll ls).find n = (ls.reverse.find? (·.number == n)).or (m.find n) := by
  induction ls generalizing m with
  | nil => simp
  | cons l ls ih =>
    rw [insertAll_cons, ih, find_insert, List.reverse_cons, List.find?_append, Option.or_assoc]
    by_cases h : l.number = n <;> simp [h]

theorem mem_iff_find {m : LineMap} {y : LogLine} : y ∈ m.lines ↔ m.find y.number = some y := by
  constructor
  · intro hy
    cases hf : m.find y.number with
    | none =>
      unfold find at hf
      simpa using List.find?_eq_none.mp hf y hy
    | some z =>
      unfold find at hf
      have hzn : z.number = y.number := by simpa using List.find?_some hf
      rw [m.ordered.eq_of_number_eq (List.mem_of_find?_eq_some hf) hy hzn]
  · exact List.mem_of_find?_eq_some

/-- Two maps that hold the same line for every number are equal. -/
theorem ext_find {m m' : LineMap} (h : ∀ n, m.find n = m'.find n) : m = m' := by
  have hmem : ∀ y, y ∈ m.lines ↔ y ∈ m'.lines := fun y => by
    rw [mem_iff_find, mem_iff_find, h]
  have hnodup : ∀ k : LineMap, k.lines.Nodup := fun k =>
    k.ordered.imp fun hlt heq => by
      subst heq
      exact Nat.lt_irrefl _ hlt
  refine ext_lines (List.Perm.eq_of_pairwise ?_ m.ordered m'.ordered
    ((List.perm_ext_iff_of_nodup (hnodup m) (hnodup m')).mpr hmem))
  intro a b _ _ hab hba
  exact absurd (Nat.lt_trans hab hba) (Nat.lt_irrefl _)

end LineMap

namespace Window

variable {w w' : Window}

/-! ### The batch of a flush -/

theorem pairwise_insertByNumber (l : LogLine) {xs : List LogLine}
    (h : xs.Pairwise (fun a b => a.number ≤ b.number)) :
    (insertByNumber l xs).Pairwise (fun a b => a.number ≤ b.number) := by
  induction xs with
  | nil => simp [insertByNumber]
  | cons x xs ih =>
    obtain ⟨hx, hxs⟩ := List.pairwise_cons.mp h
    unfold insertByNumber
    split
    · rename_i hle
      refine List.Pairwise.cons (fun y hy => ?_) (ih hxs)
      rcases mem_insertByNumber.mp hy with rfl | hy
      · exact hle
      · exact hx y hy
    · rename_i hgt
      refine List.Pairwise.cons (fun y hy => ?_) h
      rcases List.mem_cons.mp hy with rfl | hy
      · omega
      · have := hx y hy
        omega

/-- A line inserted into lines sorted by number goes after every line of its
number. -/
theorem filter_insertByNumber (l : LogLine) {xs : List LogLine}
    (h : xs.Pairwise (fun a b => a.number ≤ b.number)) (n : Nat) :
    (insertByNumber l xs).filter (·.number == n) =
      xs.filter (·.number == n) ++ [l].filter (·.number == n) := by
  induction xs with
  | nil => simp [insertByNumber]
  | cons x xs ih =>
    obtain ⟨hx, hxs⟩ := List.pairwise_cons.mp h
    unfold insertByNumber
    split
    · rw [List.filter_cons, List.filter_cons, ih hxs]
      split <;> simp
    · rename_i hgt
      by_cases hl : l.number = n
      · -- every line from `x` on is numbered above `l`
        have hnone : (x :: xs).filter (·.number == n) = [] := by
          refine List.filter_eq_nil_iff.mpr fun y hy => ?_
          rcases List.mem_cons.mp hy with rfl | hy
          · simp only [beq_iff_eq]
            omega
          · have := hx y hy
            simp only [beq_iff_eq]
            omega
        rw [List.filter_cons_of_pos (by simpa using hl), hnone]
        simp [hl]
      · rw [List.filter_cons_of_neg (by simpa using hl)]
        simp [hl]

/-- Sorting a buffer keeps the lines of each number in their order of arrival. -/
theorem filter_sortedBatch (ls : List LogLine) (n : Nat) :
    (sortedBatch ls).filter (·.number == n) = ls.filter (·.number == n) := by
  -- the sorted lines so far and the lines still to insert keep each number's order
  suffices h : ∀ sorted : List LogLine, sorted.Pairwise (fun a b => a.number ≤ b.number) →
      (ls.foldl (fun sorted l => insertByNumber l sorted) sorted).filter (·.number == n) =
        sorted.filter (·.number == n) ++ ls.filter (·.number == n) by
    simpa [sortedBatch] using h [] List.Pairwise.nil
  induction ls with
  | nil => simp
  | cons l ls ih =>
    intro sorted hs
    rw [List.foldl_cons, ih _ (pairwise_insertByNumber l hs), filter_insertByNumber l hs,
      List.append_assoc, ← List.filter_append, List.singleton_append]

/-- A flush's batch, sorted stably by number, gives the display the buffered
lines give inserted one at a time in arrival order. -/
theorem insertAll_sortedBatch (m : LineMap) (ls : List LogLine) :
    m.insertAll (sortedBatch ls) = m.insertAll ls := by
  refine LineMap.ext_find fun n => ?_
  rw [LineMap.find_insertAll, LineMap.find_insertAll, ← List.head?_filter, ← List.head?_filter,
    List.filter_reverse, List.filter_reverse, filter_sortedBatch]

/-! ### Pruning -/

/-- One pruning step drops the first line and moves the offset up a line, when
trimming the farther end and the view is no nearer the top; otherwise it drops
the last line. -/
theorem pruneStep_cases {trim : Trim} (h : w.pruneStep trim = .ok w') :
    w' = { w with display := w.display.dropFirst, scroll := w.scroll - w.config.lineHeight } ∧
        trim = .farthest ∧ w.display.size - (w.firstVisible + w.viewportRows) ≤ w.firstVisible ∨
      w' = { w with display := w.display.dropLast } ∧
        ¬(trim = .farthest ∧ w.display.size - (w.firstVisible + w.viewportRows) ≤ w.firstVisible) := by
  obtain ⟨reach, hreach, h⟩ := checked_bind_eq_ok h
  obtain ⟨-, rfl⟩ := Word.add_eq_ok_iff.mp hreach
  dsimp only at h
  split at h
  · rename_i hfar
    exact .inl ⟨(checked_pure_eq_ok h).symm, hfar.1, hfar.2⟩
  · rename_i hnear
    exact .inr ⟨(checked_pure_eq_ok h).symm, hnear⟩

theorem lines_ne_nil_of_size_pos {m : LineMap} (h : 0 < m.size) : m.lines ≠ [] := fun hnil => by
  simp [LineMap.size, hnil] at h

/-- Pruning drops a run of lines from the top and a run from the bottom, one a
step, and moves the offset up a line height for every line dropped from the top. -/
theorem pruneWith_trims {trim : Trim} {fuel count count' : Nat} {v v' : Window}
    (h : pruneWith trim fuel v count = .ok (v', count')) :
    ∃ pre suf, v.display.lines = pre ++ v'.display.lines ++ suf ∧
      count' = count + pre.length + suf.length ∧
      v' = { v with
        display := v'.display
        scroll := v.scroll - pre.length * v.config.lineHeight } := by
  induction fuel generalizing v count with
  | zero =>
    cases h
    exact ⟨[], [], by simp, rfl, by simp⟩
  | succ fuel ih =>
    simp only [pruneWith] at h
    split at h
    · rename_i hover
      have hne := lines_ne_nil_of_size_pos (Nat.lt_of_le_of_lt (Nat.zero_le _) hover)
      obtain ⟨v₁, h₁, h⟩ := checked_bind_eq_ok h
      obtain ⟨pre, suf, hlines, hcount, hv'⟩ := ih h
      rcases pruneStep_cases h₁ with ⟨rfl, -, -⟩ | ⟨rfl, -⟩
      · -- the first line goes, and the offset moves up with it
        have hscroll : v.scroll - v.config.lineHeight - pre.length * v.config.lineHeight =
            v.scroll - (pre.length + 1) * v.config.lineHeight := by
          rw [Nat.sub_sub, Nat.add_one_mul, Nat.add_comm]
        refine ⟨v.display.lines.head hne :: pre, suf, ?_, by simp only [List.length_cons]; omega,
          by rw [List.length_cons, ← hscroll]; exact hv'⟩
        calc v.display.lines = v.display.lines.head hne :: v.display.lines.tail :=
              (List.cons_head_tail hne).symm
          _ = _ := by rw [show v.display.lines.tail = _ from hlines]; rfl
      · refine ⟨pre, suf ++ [v.display.lines.getLast hne], ?_,
          by simp only [List.length_append, List.length_singleton]; omega, hv'⟩
        calc v.display.lines = v.display.lines.dropLast ++ [v.display.lines.getLast hne] :=
              (List.dropLast_concat_getLast hne).symm
          _ = _ := by rw [show v.display.lines.dropLast = _ from hlines]; simp
    · cases h
      exact ⟨[], [], by simp, rfl, by simp⟩

/-- Scrolled to the bottom, with a viewport of whole rows, no line lies below
the viewport, so the top gives way. -/
theorem trims_top_at_bottom {rows : Nat} (hlh : 0 < w.config.lineHeight)
    (hrows : w.viewportHeight = rows * w.config.lineHeight)
    (hbottom : w.scroll = (w.display.size - rows) * w.config.lineHeight) :
    w.display.size - (w.firstVisible + w.viewportRows) ≤ w.firstVisible := by
  have hfirst : w.firstVisible = w.display.size - rows := by
    simp only [firstVisible, hbottom, Nat.mul_div_cancel _ hlh]
  have hview : w.viewportRows = rows := by
    simp only [viewportRows, hrows, Nat.mul_div_cancel _ hlh]
  omega

/-- Pruning a window scrolled to the bottom, with a viewport of whole rows,
drops lines from the top only, and leaves the window at the bottom. -/
theorem pruneWith_at_bottom {fuel count count' rows : Nat} {v v' : Window}
    (h : pruneWith .farthest fuel v count = .ok (v', count'))
    (hlh : 0 < v.config.lineHeight) (hrows : v.viewportHeight = rows * v.config.lineHeight)
    (hbottom : v.scroll = (v.display.size - rows) * v.config.lineHeight) :
    ∃ pre, v.display.lines = pre ++ v'.display.lines ∧ count' = count + pre.length ∧
      v' = { v with
        display := v'.display
        scroll := (v'.display.size - rows) * v.config.lineHeight } := by
  induction fuel generalizing v count with
  | zero =>
    cases h
    exact ⟨[], rfl, rfl, by rw [← hbottom]⟩
  | succ fuel ih =>
    simp only [pruneWith] at h
    split at h
    · rename_i hover
      have hne := lines_ne_nil_of_size_pos (Nat.lt_of_le_of_lt (Nat.zero_le _) hover)
      obtain ⟨v₁, h₁, h⟩ := checked_bind_eq_ok h
      rcases pruneStep_cases h₁ with ⟨rfl, -, -⟩ | ⟨-, hnear⟩
      · -- the step keeps the window at the bottom of one line less
        have hbottom₁ : v.scroll - v.config.lineHeight =
            (v.display.dropFirst.size - rows) * v.config.lineHeight := by
          rw [hbottom, LineMap.size_dropFirst, ← Nat.sub_one_mul]
          congr 1
          omega
        obtain ⟨pre, hlines, hcount, hv'⟩ := ih h hlh hrows hbottom₁
        refine ⟨v.display.lines.head hne :: pre, ?_, by simp only [List.length_cons]; omega, hv'⟩
        calc v.display.lines = v.display.lines.head hne :: v.display.lines.tail :=
              (List.cons_head_tail hne).symm
          _ = _ := by rw [show v.display.lines.tail = _ from hlines]; rfl
      · exact absurd ⟨rfl, trims_top_at_bottom hlh hrows hbottom⟩ hnear
    · cases h
      exact ⟨[], rfl, rfl, by rw [← hbottom]⟩

/-- Pruning returns while the row just below the viewport is a word; no step
moves the offset down. -/
theorem pruneWith_returns (trim : Trim) (fuel : Nat) {v : Window} (count : Nat)
    (h : v.firstVisible + v.viewportRows < wordBound) :
    ∃ r, pruneWith trim fuel v count = .ok r := by
  induction fuel generalizing v count with
  | zero => exact ⟨_, rfl⟩
  | succ fuel ih =>
    simp only [pruneWith]
    split
    · obtain ⟨v₁, h₁, hreach⟩ : ∃ v₁, v.pruneStep trim = .ok v₁ ∧
          v₁.firstVisible + v₁.viewportRows < wordBound := by
        unfold pruneStep
        rw [checked_bind_ok (Word.add_eq_ok h)]
        dsimp only
        split
        · refine ⟨_, rfl, ?_⟩
          have : (v.scroll - v.config.lineHeight) / v.config.lineHeight ≤
              v.scroll / v.config.lineHeight := Nat.div_le_div_right (Nat.sub_le _ _)
          simp only [firstVisible, viewportRows] at h ⊢
          omega
        · exact ⟨_, rfl, h⟩
      rw [checked_bind_ok h₁]
      exact ih (count + 1) hreach
    · exact ⟨_, rfl⟩

/-- What pruning comes to for a window whose row just below the viewport is a
word: it returns, drops a run of lines from the top and a run from the bottom,
and moves the offset up a line height for every line dropped from the top. -/
theorem prune_trims {trim : Trim} {r : Checked (Window × Nat)} (h : w.prune trim = r)
    (hreach : w.firstVisible + w.viewportRows < wordBound) :
    ∃ v pre suf, r = .ok (v, pre.length + suf.length) ∧
      w.display.lines = pre ++ v.display.lines ++ suf ∧
      v.display.size = min w.display.size w.config.maxDisplayLines ∧
      v = { w with
        display := v.display
        scroll := w.scroll - pre.length * w.config.lineHeight } := by
  subst h
  obtain ⟨⟨v, pruned⟩, hprune⟩ := pruneWith_returns trim w.display.size 0 hreach
  obtain ⟨pre, suf, hlines, hcount, hv⟩ := pruneWith_trims hprune
  obtain ⟨d, s, hvd, -, hsize⟩ := prune_eq (w := w) hprune
  refine ⟨v, pre, suf, ?_, hlines, by rw [hvd]; exact hsize, hv⟩
  rw [Nat.zero_add] at hcount
  rw [← hcount]
  exact hprune

/-- What pruning the farther end comes to for a window at the bottom, with a
viewport of whole rows and a display whose size is a word: it returns, drops
lines from the top only, and leaves the window at the bottom of what is left. -/
theorem prune_at_bottom {r : Checked (Window × Nat)} (h : w.prune .farthest = r) {rows : Nat}
    (hlh : 0 < w.config.lineHeight) (hrows : w.viewportHeight = rows * w.config.lineHeight)
    (hview : rows < wordBound) (hsize : w.display.size < wordBound)
    (hbottom : w.scroll = (w.display.size - rows) * w.config.lineHeight) :
    ∃ v pre, r = .ok (v, pre.length) ∧ w.display.lines = pre ++ v.display.lines ∧
      v.display.size = min w.display.size w.config.maxDisplayLines ∧
      v = { w with
        display := v.display
        scroll := (v.display.size - rows) * w.config.lineHeight } := by
  subst h
  -- at the bottom the first line in view and the rows in view reach the larger
  -- of the display and the viewport
  have hreach : w.firstVisible + w.viewportRows < wordBound := by
    simp only [firstVisible, viewportRows, hbottom, hrows, Nat.mul_div_cancel _ hlh]
    omega
  obtain ⟨⟨v, pruned⟩, hprune⟩ := pruneWith_returns .farthest w.display.size 0 hreach
  obtain ⟨pre, hlines, hcount, hv⟩ := pruneWith_at_bottom hprune hlh hrows hbottom
  obtain ⟨d, s, hvd, -, hsize'⟩ := prune_eq (w := w) hprune
  refine ⟨v, pre, ?_, hlines, by rw [hvd]; exact hsize', hv⟩
  rw [← Nat.zero_add pre.length, ← hcount]
  exact hprune

/-- What pruning the farther end comes to for a window at the top, with a
viewport whose rows are a word: it returns, drops a run of lines from the top
and a run from the bottom, and leaves the window at the top. -/
theorem prune_at_top {r : Checked (Window × Nat)} (h : w.prune .farthest = r)
    (htop : w.scroll = 0) (hview : w.viewportRows < wordBound) :
    ∃ v pre suf, r = .ok (v, pre.length + suf.length) ∧
      w.display.lines = pre ++ v.display.lines ++ suf ∧
      v.display.size = min w.display.size w.config.maxDisplayLines ∧
      v = { w with display := v.display } := by
  have hreach : w.firstVisible + w.viewportRows < wordBound := by
    simp only [firstVisible, htop, Nat.zero_div, Nat.zero_add]
    exact hview
  obtain ⟨v, pre, suf, hr, hlines, hsize, hv⟩ := prune_trims h hreach
  refine ⟨v, pre, suf, hr, hlines, hsize, ?_⟩
  -- the offset stays at the top
  calc v = { w with display := v.display, scroll := w.scroll - pre.length * w.config.lineHeight } := hv
    _ = { w with display := v.display } := by rw [htop, Nat.zero_sub]

/-! ### A flush -/

theorem isFollowing_of_fits (h : w.display.size * w.config.lineHeight < wordBound) :
    ∃ b, w.isFollowing = .ok b := by
  unfold isFollowing contentHeight
  rw [checked_bind_ok (Word.mul_eq_ok h)]
  exact ⟨_, rfl⟩

/-- A flush with nothing buffered changes nothing and reports nothing. -/
theorem flush_of_empty (h : w.buffer = []) : w.flush = .ok (w, {}) := by
  simp only [flush, h, List.isEmpty_nil, if_true]
  rfl

/-- A flush of a window that follows, with a viewport of whole rows: the top of
the flushed display gives way, and the window ends at the bottom. -/
theorem flush_when_following (hne : w.buffer ≠ []) (hfollow : w.isFollowing = .ok true)
    (hlh : 0 < w.config.lineHeight) {rows : Nat}
    (hrows : w.viewportHeight = rows * w.config.lineHeight) (hview : rows < wordBound)
    (hfit : (w.display.insertAll w.buffer).size * w.config.lineHeight < wordBound) :
    ∃ d pre, (w.display.insertAll w.buffer).lines = pre ++ d.lines ∧
      d.size = min (w.display.insertAll w.buffer).size w.config.maxDisplayLines ∧
      w.flush = .ok ({ w with
          buffer := []
          display := d
          scroll := d.size * w.config.lineHeight - w.viewportHeight
          state := if w.state = .empty then .lines else w.state },
        { rendered := w.buffer.length, pruned := pre.length, followed := true }) := by
  generalize hD : w.display.insertAll w.buffer = D at hfit ⊢
  let w₀ : Window := { w with
    buffer := []
    display := D
    state := if w.state = .empty then .lines else w.state }
  have hbottom : ({ w₀ with scroll := D.size * w.config.lineHeight - w.viewportHeight } :
      Window).scroll = (D.size - rows) * w.config.lineHeight := by
    show D.size * w.config.lineHeight - w.viewportHeight = _
    rw [hrows, Nat.sub_mul]
  -- scrolled to the bottom, the top of the flushed display gives way
  obtain ⟨v, pre, hprune, hlines, hsize, hv⟩ :=
    prune_at_bottom (w := { w₀ with scroll := D.size * w.config.lineHeight - w.viewportHeight })
      rfl hlh hrows hview (Nat.lt_of_le_of_lt (Nat.le_mul_of_pos_right _ hlh) hfit) hbottom
  have hfit' : v.display.size * w.config.lineHeight < wordBound := by
    have hle : v.display.size ≤ D.size := by rw [hsize]; exact Nat.min_le_left _ _
    exact Nat.lt_of_le_of_lt (Nat.mul_le_mul_right _ hle) hfit
  refine ⟨v.display, pre, hlines, hsize, ?_⟩
  unfold flush
  rw [if_neg (by simpa using hne), hfollow]
  simp only [bind, Except.bind, if_true]
  rw [insertAll_sortedBatch, hD, scrollToBottom_of_fits hfit]
  simp only
  rw [hprune]
  simp only
  rw [hv, scrollToBottom_of_fits (w := { w₀ with
      display := v.display
      scroll := (v.display.size - rows) * w.config.lineHeight }) hfit',
    (sortedBatch_perm w.buffer).length_eq]
  rfl

/-- A flush of a window that does not follow: the offset moves up a line height
for every line dropped from the top, and is then kept within the content. -/
theorem flush_when_not_following (hne : w.buffer ≠ []) (hfollow : w.isFollowing = .ok false)
    (hfit : (w.display.insertAll w.buffer).size * w.config.lineHeight < wordBound)
    (hreach : w.firstVisible + w.viewportRows < wordBound) :
    ∃ d pre suf, (w.display.insertAll w.buffer).lines = pre ++ d.lines ++ suf ∧
      d.size = min (w.display.insertAll w.buffer).size w.config.maxDisplayLines ∧
      w.flush = .ok ({ w with
          buffer := []
          display := d
          scroll := min (w.scroll - pre.length * w.config.lineHeight)
            (d.size * w.config.lineHeight - w.viewportHeight)
          state := if w.state = .empty then .lines else w.state },
        { rendered := w.buffer.length, pruned := pre.length + suf.length, followed := false }) := by
  generalize hD : w.display.insertAll w.buffer = D at hfit ⊢
  let w₀ : Window := { w with
    buffer := []
    display := D
    state := if w.state = .empty then .lines else w.state }
  obtain ⟨v, pre, suf, hprune, hlines, hsize, hv⟩ := prune_trims (w := w₀) rfl hreach
  have hfit' : v.display.size * w.config.lineHeight < wordBound := by
    have hle : v.display.size ≤ D.size := by rw [hsize]; exact Nat.min_le_left _ _
    exact Nat.lt_of_le_of_lt (Nat.mul_le_mul_right _ hle) hfit
  refine ⟨v.display, pre, suf, hlines, hsize, ?_⟩
  unfold flush
  rw [if_neg (by simpa using hne), hfollow]
  simp only [bind, Except.bind, Bool.false_eq_true, if_false, pure, Except.pure]
  rw [insertAll_sortedBatch, hD, hprune]
  simp only
  rw [hv, clampScroll_of_fits (w := { w₀ with
      display := v.display
      scroll := w.scroll - pre.length * w.config.lineHeight }) hfit',
    (sortedBatch_perm w.buffer).length_eq]

/-- A flush is batched sequential insertion, then a prune of a run from each end: a
window that followed ends at the bottom, one that did not moves up with the top. -/
theorem flush_inserts_in_arrival_order (w : Window) (hlh : 0 < w.config.lineHeight)
    (hrows : w.config.lineHeight ∣ w.viewportHeight) (hne : w.buffer ≠ [])
    (hfit : (w.display.insertAll w.buffer).size * w.config.lineHeight < wordBound)
    (hreach : w.firstVisible + w.viewportRows < wordBound) :
    w.display.insertAll (sortedBatch w.buffer) = w.display.insertAll w.buffer ∧
    (∀ n, (w.display.insertAll w.buffer).find n =
      (w.buffer.reverse.find? (·.number == n)).or (w.display.find n)) ∧
    ∃ follow w' pre suf, w.isFollowing = .ok follow ∧
      w.flush = .ok (w',
        { rendered := w.buffer.length, pruned := pre.length + suf.length, followed := follow }) ∧
      w' = { w with
        buffer := []
        display := w'.display
        scroll := w'.scroll
        state := if w.state = .empty then .lines else w.state } ∧
      (w.display.insertAll w.buffer).lines = pre ++ w'.display.lines ++ suf ∧
      w'.display.size = min (w.display.insertAll w.buffer).size w.config.maxDisplayLines ∧
      (follow = true → suf = [] ∧ w'.maxScroll = .ok w'.scroll ∧ w'.isFollowing = .ok true) ∧
      (follow = false → w'.scroll = min (w.scroll - pre.length * w.config.lineHeight)
        (w'.display.size * w.config.lineHeight - w.viewportHeight)) ∧
      w'.flush = .ok (w', {}) := by
  obtain ⟨rows, hrows⟩ := hrows
  rw [Nat.mul_comm] at hrows
  have hgrow : w.display.size * w.config.lineHeight < wordBound :=
    Nat.lt_of_le_of_lt (Nat.mul_le_mul_right _ (LineMap.size_le_insertAll _ _)) hfit
  obtain ⟨follow, hfollow⟩ := isFollowing_of_fits hgrow
  refine ⟨insertAll_sortedBatch _ _, LineMap.find_insertAll _ _, ?_⟩
  cases follow with
  | true =>
    have hview : rows < wordBound := by
      have : w.viewportRows = rows := by
        simp only [viewportRows, hrows, Nat.mul_div_cancel _ hlh]
      omega
    obtain ⟨d, pre, hlines, hsize, hflush⟩ := flush_when_following hne hfollow hlh hrows hview hfit
    have hfit' : d.size * w.config.lineHeight < wordBound := by
      have : d.size ≤ (w.display.insertAll w.buffer).size := by rw [hsize]; exact Nat.min_le_left _ _
      exact Nat.lt_of_le_of_lt (Nat.mul_le_mul_right _ this) hfit
    refine ⟨true, _, pre, [], hfollow, hflush, rfl, (by rw [hlines, List.append_nil]), hsize,
      fun _ => ⟨rfl, ?_, ?_⟩, fun h => (by cases h), flush_of_empty rfl⟩
    · exact maxScroll_of_fits hfit'
    · exact isFollowing_of_bottom hfit' (maxScroll_of_fits hfit')
  | false =>
    obtain ⟨d, pre, suf, hlines, hsize, hflush⟩ := flush_when_not_following hne hfollow hfit hreach
    exact ⟨false, _, pre, suf, hfollow, hflush, rfl, hlines, hsize, fun h => (by cases h),
      fun _ => rfl, flush_of_empty rfl⟩

/-- Two lines streamed for a shown line and one line above it, the shown line's
number twice: the flush moves three lines in. -/
theorem flush_inserts_in_arrival_order_resent :
    let w : Window := { Window.new {} with
      task := some 7
      state := .lines
      display := LineMap.ofList [LogLine.numbered 1, LogLine.numbered 2]
      buffer := [⟨2, "again"⟩, ⟨3, "new"⟩, ⟨2, "last"⟩] }
    0 < w.config.lineHeight ∧ w.config.lineHeight ∣ w.viewportHeight ∧ w.buffer ≠ [] ∧
      (w.display.insertAll w.buffer).size * w.config.lineHeight < wordBound ∧
      w.firstVisible + w.viewportRows < wordBound ∧
      ∃ w' r, w.flush = .ok (w', r) ∧ r.rendered = 3 := by
  intro w
  have hlh : 0 < w.config.lineHeight := by decide
  have hrows : w.config.lineHeight ∣ w.viewportHeight := by decide
  have hne : w.buffer ≠ [] := by decide
  have hfit : (w.display.insertAll w.buffer).size * w.config.lineHeight < wordBound := by decide
  have hreach : w.firstVisible + w.viewportRows < wordBound := by decide
  obtain ⟨-, -, follow, w', pre, suf, -, hflush, -⟩ :=
    flush_inserts_in_arrival_order w hlh hrows hne hfit hreach
  exact ⟨hlh, hrows, hne, hfit, hreach, w', _, hflush, rfl⟩

/-! ### The viewport of a reachable window -/

theorem setViewportRows_height {rows : Nat} (h : w.setViewportRows rows = .ok w') :
    w'.viewportHeight = rows * w.config.lineHeight ∧ rows * w.config.lineHeight < wordBound := by
  obtain ⟨follow, -, h⟩ := checked_bind_eq_ok h
  obtain ⟨height, hheight, h⟩ := checked_bind_eq_ok h
  obtain ⟨hfits, rfl⟩ := Word.mul_eq_ok_iff.mp hheight
  split at h
  · obtain ⟨s, rfl⟩ := scrollToBottom_eq h
    exact ⟨rfl, hfits⟩
  · obtain ⟨s, rfl⟩ := clampScroll_eq h
    exact ⟨rfl, hfits⟩

theorem commitPrefetch_viewportHeight {b : Bool} (h : w.commitPrefetch = .ok (w', b)) :
    w'.viewportHeight = w.viewportHeight := by
  rcases commitPrefetch_eq h with ⟨-, rfl, -⟩ | ⟨staged, d, s, -, -, rfl, -⟩ <;> rfl

theorem flush_viewportHeight {r : FlushReport} (h : w.flush = .ok (w', r)) :
    w'.viewportHeight = w.viewportHeight := by
  rcases flush_eq h with ⟨-, rfl⟩ | ⟨d, s, -, rfl, -⟩ <;> rfl

theorem complete_viewportHeight {ticket : LoadTicket} {result : Except LoadError LogChunk}
    {o : LoadOutcome} (h : w.complete ticket result = .ok (w', o)) :
    w'.viewportHeight = w.viewportHeight := by
  rcases complete_eq h with ⟨-, rfl, -⟩ | ⟨-, -, ⟨-, hp⟩ | ⟨-, hp⟩⟩
  · rfl
  · rcases applyPrefetch_eq hp with
      ⟨e, -, -, rfl⟩ | ⟨chunk, -, -, ⟨-, rfl⟩ | ⟨lo, hi, w₁, -, -, rfl, ⟨-, b, hc⟩ | ⟨-, rfl⟩⟩⟩
    · rfl
    · rfl
    · rw [commitPrefetch_viewportHeight hc]
    · rfl
  · rcases applyPrimary_cases hp with ⟨e, -, rfl⟩ | ⟨chunk, rfl, hne⟩
    · rfl
    · obtain ⟨-, streamed, buffer, newer, -, ⟨-, rfl⟩ | ⟨lo, hi, d, s, -, -, rfl, -⟩⟩ :=
        applyPrimary_applied rfl hne hp <;> rfl

/-- Only a resize moves the viewport, to a whole number of rows whose height is a
word. -/
theorem perform_viewportHeight {op : WindowOp} {issued : Option LoadTicket}
    (h : w.perform op = .ok (w', issued)) :
    w'.viewportHeight = w.viewportHeight ∨
      ∃ rows, w'.viewportHeight = rows * w.config.lineHeight ∧
        rows * w.config.lineHeight < wordBound := by
  have hop := perform_eq_ok h
  cases op with
  | openTask task => exact .inl (by rw [hop.1]; rfl)
  | reload =>
    cases htask : w.task with
    | none =>
      rw [reload_of_none htask] at hop
      cases hop
      exact .inl rfl
    | some task =>
      rw [reload_of_task htask] at hop
      cases hop
      exact .inl rfl
  | close => exact .inl (by rw [hop.1]; rfl)
  | loadRange first last =>
    rcases hop with hl | ⟨-, rfl, -⟩
    · rcases loadRange_eq_ok hl with hp | ⟨task, -, -, hp⟩ <;> cases hp <;> exact .inl rfl
    · exact .inl rfl
  | complete ticket result =>
    obtain ⟨-, o, hc⟩ := hop
    exact .inl (complete_viewportHeight hc)
  | append task line =>
    obtain ⟨-, b, ha⟩ := hop
    rcases appendStreamed_eq ha with ⟨-, rfl⟩ | ⟨-, -, first, w₁, -, rfl, ⟨-, rfl⟩ | ⟨-, r, hf⟩⟩
    · exact .inl rfl
    · exact .inl rfl
    · exact .inl (by rw [flush_viewportHeight hf])
  | flush =>
    obtain ⟨-, r, hf⟩ := hop
    exact .inl (flush_viewportHeight hf)
  | prefetch position height =>
    rcases prefetchAbove_eq hop with ⟨-, rfl⟩ | ⟨task, loaded, -, -, -, -, -, -, -, -, rfl⟩ <;>
      exact .inl rfl
  | commit =>
    obtain ⟨-, b, hc⟩ := hop
    exact .inl (commitPrefetch_viewportHeight hc)
  | onScroll =>
    obtain ⟨w₁, hp, ⟨-, -, b, hc⟩ | ⟨-, rfl⟩⟩ := onScroll_eq hop
    · rw [commitPrefetch_viewportHeight hc]
      rcases prefetchAbove_eq hp with ⟨-, rfl⟩ | ⟨task, loaded, -, -, -, -, -, -, -, -, rfl⟩ <;>
        exact .inl rfl
    · rcases prefetchAbove_eq hp with ⟨-, rfl⟩ | ⟨task, loaded, -, -, -, -, -, -, -, -, rfl⟩ <;>
        exact .inl rfl
  | setRows rows =>
    obtain ⟨w₁, hr, h⟩ := checked_bind_eq_ok h
    cases checked_pure_eq_ok h
    exact .inr ⟨rows, setViewportRows_height hr⟩
  | scroll delta =>
    obtain ⟨w₁, hr, h⟩ := checked_bind_eq_ok h
    cases checked_pure_eq_ok h
    obtain ⟨sc, rfl⟩ := scrollLines_eq hr
    exact .inl rfl
  | toTop =>
    cases h
    exact .inl rfl
  | toBottom =>
    obtain ⟨w₁, hr, h⟩ := checked_bind_eq_ok h
    cases checked_pure_eq_ok h
    obtain ⟨sc, rfl⟩ := scrollToBottom_eq hr
    exact .inl rfl

end Window

namespace Session

/-- The viewport of every reachable window is a whole number of rows, and its
height is a word. -/
theorem Run.viewport_rows {caller : Caller} {c : WindowConfig} {ops : List WindowOp}
    {s : Session} (h : Run caller (start c) ops s) :
    ∃ rows, s.window.viewportHeight = rows * s.window.config.lineHeight ∧
      s.window.viewportHeight < wordBound := by
  refine h.induction (fun s => ∃ rows, s.window.viewportHeight = rows * s.window.config.lineHeight ∧
      s.window.viewportHeight < wordBound) (fun s op s' hs hstep => ?_) ⟨0, by simp [start, Window.new],
    Nat.pos_of_ne_zero (by decide)⟩
  cases hstep with
  | mk _ hperf =>
    obtain ⟨rows, hrows, hword⟩ := hs
    rw [Window.perform_config hperf]
    rcases Window.perform_viewportHeight hperf with heq | ⟨rows', hrows', hword'⟩
    · exact ⟨rows, heq.trans hrows, heq ▸ hword⟩
    · exact ⟨rows', hrows', hrows' ▸ hword'⟩

/-- With a line height of a quarter of a word, which a configuration file can
give, a window showing three lines that follows flushes a fourth line in and
scrolls to the bottom of four lines, whose height leaves the word. -/
theorem flush_tall_lines_overflow :
    ({ lineHeight := Nat.pow 2 62 } : WindowConfig).check = none ∧
      ∃ s, Run Caller.wire (start { lineHeight := Nat.pow 2 62 })
        [.openTask 7, .complete ⟨1, 7, .tail, 0, 0⟩ (.ok ⟨[⟨1, "a"⟩, ⟨2, "b"⟩, ⟨3, "c"⟩], 3⟩),
          .append 7 ⟨4, "d"⟩] s ∧
        s.window.buffer ≠ [] ∧ s.window.flush = .error .multiply := by
  have hrun := (((Run.nil : Run Caller.wire (start { lineHeight := Nat.pow 2 62 }) [] _).perform
    (.openTask 7) trivial rfl).perform
      (.complete ⟨1, 7, .tail, 0, 0⟩ (.ok ⟨[⟨1, "a"⟩, ⟨2, "b"⟩, ⟨3, "c"⟩], 3⟩))
      ⟨by decide, .inr ⟨["a", "b", "c"], 3, _, rfl, rfl⟩⟩ rfl).perform (.append 7 ⟨4, "d"⟩) trivial rfl
  exact ⟨by decide, _, hrun, by decide, rfl⟩

end Session

end TaskConsole
