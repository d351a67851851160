import TaskConsole.Proofs.Window.Flush
import TaskConsole.Proofs.Window.Consistency

/-! The line in view through a flush. A window that does not follow ends above the
bottom of its display, and pruning the farther end keeps it so, dropping top lines
only by moving the offset up with them (`Window.pruneWith_keeps_view`). -/

namespace TaskConsole

namespace Window

variable {v v' w w' : Window}

/-- The viewport ends above the display's last line, and the display's bound
holds more rows than the viewport. -/
structure Clear (v : Window) : Prop where
  lineHeight_pos : 0 < v.config.lineHeight
  rows_lt : v.viewportRows < v.config.maxDisplayLines
  above_bottom : v.firstVisible + v.viewportRows < v.display.size

/-- A window at least a unit above the bottom of its content, whose viewport is
narrower than the bound on its display, is clear of the bottom. -/
theorem Clear.of_above (hlh : 0 < v.config.lineHeight)
    (habove : v.scroll + v.viewportHeight < v.display.size * v.config.lineHeight)
    {size : Nat} (hbound : size ≤ v.config.maxDisplayLines)
    (hrows : v.viewportHeight < size * v.config.lineHeight) : v.Clear where
  lineHeight_pos := hlh
  rows_lt := by
    have hrow : v.viewportRows * v.config.lineHeight < size * v.config.lineHeight :=
      Nat.lt_of_le_of_lt (Nat.div_mul_le_self _ _) hrows
    exact Nat.lt_of_lt_of_le (Nat.lt_of_mul_lt_mul_right hrow) hbound
  above_bottom := by
    have hfirst := Nat.div_mul_le_self v.scroll v.config.lineHeight
    have hrow := Nat.div_mul_le_self v.viewportHeight v.config.lineHeight
    apply Nat.lt_of_mul_lt_mul_right (a := v.config.lineHeight)
    rw [Nat.add_mul]
    simp only [firstVisible, viewportRows]
    omega

/-- A window that does not follow ends at least a unit above the bottom. -/
theorem above_of_not_following (h : w.isFollowing = .ok false) :
    w.scroll + w.viewportHeight < w.display.size * w.config.lineHeight := by
  obtain ⟨height, hheight, hdec⟩ := checked_bind_eq_ok h
  obtain ⟨-, rfl⟩ := Word.mul_eq_ok_iff.mp hheight
  have hdec := checked_pure_eq_ok hdec
  simp only [decide_eq_false_iff_not, Nat.not_lt] at hdec
  omega

/-- `v'` shows the line `v` showed at the top of its viewport, at the same offset
within it and under the same configuration and viewport, and is clear of the bottom. -/
structure KeepsView (v v' : Window) : Prop where
  line : v'.display.lines[v'.firstVisible]? = v.display.lines[v.firstVisible]?
  offset : v'.scroll % v.config.lineHeight = v.scroll % v.config.lineHeight
  config : v'.config = v.config
  viewportHeight : v'.viewportHeight = v.viewportHeight
  clear : v'.Clear

theorem KeepsView.refl (hc : v.Clear) : v.KeepsView v := ⟨rfl, rfl, rfl, rfl, hc⟩

theorem KeepsView.trans {v'' : Window} (h₁ : v.KeepsView v') (h₂ : v'.KeepsView v'') :
    v.KeepsView v'' where
  line := h₂.line.trans h₁.line
  offset := by
    have h := h₂.offset
    rw [h₁.config] at h
    exact h.trans h₁.offset
  config := h₂.config.trans h₁.config
  viewportHeight := h₂.viewportHeight.trans h₁.viewportHeight
  clear := h₂.clear

/-- One step of pruning the farther end of a window clear of the bottom keeps its
view. -/
theorem pruneStep_keeps_view (hc : v.Clear) (hover : v.config.maxDisplayLines < v.display.size)
    (h : v.pruneStep .farthest = .ok v') : v.KeepsView v' := by
  have hlh := hc.lineHeight_pos
  have hrows := hc.rows_lt
  have hbottom := hc.above_bottom
  rcases pruneStep_cases h with ⟨rfl, -, hfar⟩ | ⟨rfl, hnear⟩
  · -- the top gives way only with a line above the viewport, which the offset
    -- passes over
    have hone : 1 ≤ v.firstVisible := by omega
    have hline : v.config.lineHeight ≤ v.scroll := by
      simpa using (Nat.le_div_iff_mul_le hlh).mp hone
    have hfirst : (v.scroll - v.config.lineHeight) / v.config.lineHeight = v.firstVisible - 1 := by
      have h := Nat.sub_mul_div v.scroll v.config.lineHeight 1
      rw [Nat.mul_one] at h
      exact h
    have hsize : v.display.dropFirst.size = v.display.size - 1 := LineMap.size_dropFirst _
    refine ⟨?_, (Nat.mod_eq_sub_mod hline).symm, rfl, rfl, hlh, hrows, ?_⟩
    · show v.display.lines.tail[(v.scroll - v.config.lineHeight) / v.config.lineHeight]? = _
      rw [hfirst, List.getElem?_tail, Nat.sub_add_cancel hone]
    · show (v.scroll - v.config.lineHeight) / v.config.lineHeight + v.viewportRows <
        v.display.dropFirst.size
      omega
  · -- the bottom gives way only with two lines below the viewport
    simp only [true_and, Nat.not_le] at hnear
    have hsize : v.display.dropLast.size = v.display.size - 1 := LineMap.size_dropLast _
    refine ⟨?_, rfl, rfl, rfl, hlh, hrows, ?_⟩
    · have hlt : v.firstVisible < v.display.lines.length - 1 := by
        show v.firstVisible < v.display.size - 1
        omega
      show v.display.lines.dropLast[v.firstVisible]? = _
      rw [List.getElem?_dropLast, if_pos hlt]
    · show v.firstVisible + v.viewportRows < v.display.dropLast.size
      omega

/-- Pruning the farther end of a window clear of the bottom keeps its view. -/
theorem pruneWith_keeps_view {fuel count count' : Nat} (hc : v.Clear)
    (h : pruneWith .farthest fuel v count = .ok (v', count')) : v.KeepsView v' := by
  induction fuel generalizing v count with
  | zero =>
    cases h
    exact .refl hc
  | succ fuel ih =>
    simp only [pruneWith] at h
    split at h
    · rename_i hover
      obtain ⟨v₁, h₁, h⟩ := checked_bind_eq_ok h
      have hstep := pruneStep_keeps_view hc hover h₁
      exact hstep.trans (ih hstep.clear h)
    · cases h
      exact .refl hc

/-- The clamp leaves a window with a viewport of whole rows clear of the bottom
as it is. -/
theorem clampScroll_of_clear {rows : Nat} (hc : v.Clear)
    (hrows : v.viewportHeight = rows * v.config.lineHeight) (h : v.clampScroll = .ok v') :
    v' = v := by
  obtain ⟨m, hm, h⟩ := checked_bind_eq_ok h
  obtain ⟨content, hcontent, hm⟩ := checked_bind_eq_ok hm
  obtain ⟨-, rfl⟩ := Word.mul_eq_ok_iff.mp hcontent
  cases checked_pure_eq_ok hm
  cases checked_pure_eq_ok h
  have hview : v.viewportRows = rows := by
    simp only [viewportRows, hrows, Nat.mul_div_cancel _ hc.lineHeight_pos]
  -- the offset ends within the line above the last rows of the display
  have hwithin := Nat.lt_div_mul_add (a := v.scroll) hc.lineHeight_pos
  have hrest : (v.firstVisible + rows + 1) * v.config.lineHeight ≤
      v.display.size * v.config.lineHeight :=
    Nat.mul_le_mul_right _ (by have := hc.above_bottom; omega)
  simp only [Nat.add_mul, Nat.one_mul, firstVisible] at hrest
  rw [Nat.min_eq_left (by omega)]

/-- A flush of a window that does not follow, with a viewport of whole rows and a
display within its bound, keeps the offset within a line, and the line in view is
the one the batch put at the viewport's index. -/
theorem flush_keeps_view {r : FlushReport} {rows : Nat} (hlh : 0 < w.config.lineHeight)
    (hrows : w.viewportHeight = rows * w.config.lineHeight)
    (hbound : w.display.size ≤ w.config.maxDisplayLines)
    (hfollow : w.isFollowing = .ok false) (h : w.flush = .ok (w', r)) :
    w'.scroll % w.config.lineHeight = w.scroll % w.config.lineHeight ∧
      w'.display.lines[w'.firstVisible]? =
        (w.display.insertAll (sortedBatch w.buffer)).lines[w.firstVisible]? := by
  have habove := above_of_not_following hfollow
  unfold flush at h
  split at h
  · rename_i hempty
    cases h
    rw [List.isEmpty_iff.mp hempty]
    exact ⟨rfl, rfl⟩
  · obtain ⟨follow, hf, h⟩ := checked_bind_eq_ok h
    rw [hfollow] at hf
    cases hf
    simp only [Bool.false_eq_true, if_false] at h
    obtain ⟨w₁, h₁, h⟩ := checked_bind_eq_ok h
    cases checked_pure_eq_ok h₁
    obtain ⟨⟨v, pruned⟩, hprune, h⟩ := checked_bind_eq_ok h
    obtain ⟨w₃, h₃, h⟩ := checked_bind_eq_ok h
    cases h
    -- the batch only lengthens the display below a viewport that ended above its bottom
    have hgrow := LineMap.size_le_insertAll w.display (sortedBatch w.buffer)
    have hclear := Clear.of_above (v := { w with
        buffer := []
        display := w.display.insertAll (sortedBatch w.buffer)
        state := if w.state = .empty then .lines else w.state })
      hlh (Nat.lt_of_lt_of_le habove (Nat.mul_le_mul_right _ hgrow)) hbound
      (Nat.lt_of_le_of_lt (Nat.le_add_left _ _) habove)
    have hkeep := pruneWith_keeps_view hclear hprune
    rw [← hkeep.config, ← hkeep.viewportHeight] at hrows
    cases clampScroll_of_clear hkeep.clear hrows h₃
    exact ⟨hkeep.offset, hkeep.line⟩

/-- A flush of a window that does not follow, with a viewport of whole rows and a
display within its bound, keeps the line in view unless a buffered line not yet
shown goes in above it. -/
theorem flush_keeps_line_in_view {r : FlushReport} {rows : Nat} {l : LogLine}
    (hlh : 0 < w.config.lineHeight) (hrows : w.viewportHeight = rows * w.config.lineHeight)
    (hbound : w.display.size ≤ w.config.maxDisplayLines)
    (hfollow : w.isFollowing = .ok false) (h : w.flush = .ok (w', r))
    (hanchor : w.display.lines[w.firstVisible]? = some l)
    (habove : ∀ b ∈ w.buffer, b.number < l.number → b.number ∈ w.display.numbers) :
    (w'.display.lines[w'.firstVisible]?).map (·.number) = some l.number := by
  obtain ⟨-, hline⟩ := flush_keeps_view hlh hrows hbound hfollow h
  obtain ⟨hmem, hcount⟩ := LineMap.getElem?_lines_eq_some.mp (by rw [hanchor]; rfl :
    (w.display.lines[w.firstVisible]?).map (·.number) = some l.number)
  rw [hline, LineMap.getElem?_lines_eq_some]
  refine ⟨LineMap.mem_numbers_insertAll.mpr (.inl hmem), ?_⟩
  rw [← hcount]
  -- the batch brings no number below the line in view that is not shown already
  apply LineMap.count_below_eq
  intro k hk
  rw [mem_numbers_insertAll_sortedBatch]
  constructor
  · rintro (hd | hb)
    · exact hd
    · obtain ⟨b, hbuf, rfl⟩ := List.mem_map.mp hb
      exact habove b hbuf hk
  · exact .inl

end Window

namespace Session

/-- Along every run from a configuration the window accepts, a flush of a window
that does not follow keeps the offset within a line and, unless a buffered line
not yet shown goes in above it, the line in view, whichever end gives way. -/
theorem Run.flush_keeps_line_in_view {c : WindowConfig} {ops : List WindowOp} {s : Session}
    {w' : Window} {r : FlushReport} (hc : c.check = none) (hrun : Run Caller.wire (start c) ops s)
    (hfollow : s.window.isFollowing = .ok false) (h : s.window.flush = .ok (w', r)) :
    w'.scroll % c.lineHeight = s.window.scroll % c.lineHeight ∧
      ∀ l : LogLine, s.window.display.lines[s.window.firstVisible]? = some l →
        (∀ b ∈ s.window.buffer, b.number < l.number → b.number ∈ s.window.display.numbers) →
        (w'.display.lines[w'.firstVisible]?).map (·.number) = some l.number := by
  have hsizes := WindowConfig.sizes_of_check hc
  have hconfig := hrun.config
  have hlh : 0 < s.window.config.lineHeight := hconfig ▸ hsizes.lineHeight_pos
  obtain ⟨rows, hrows, -⟩ := hrun.viewport_rows
  have hbound := ((hrun.consistent hsizes.display_pos hsizes.flush_pos).window).display_bounded
  rw [← hconfig]
  exact ⟨(Window.flush_keeps_view hlh hrows hbound hfollow h).1,
    fun l hanchor habove => Window.flush_keeps_line_in_view hlh hrows hbound hfollow h hanchor habove⟩

end Session

/-- The line under the viewport stays put. A reachable window that does not follow
keeps, through a flush, the offset within a line and the line in view unless a new
line goes in above it; a splice shifts the offset by a line height per line added. -/
theorem scroll_anchor_kept (w : Window) :
    (∀ {c : WindowConfig} {ops : List WindowOp} {held : List LoadTicket} {w' : Window}
      {r : FlushReport}, c.check = none → Session.Run Caller.wire (Session.start c) ops ⟨w, held⟩ →
      w.isFollowing = .ok false → w.flush = .ok (w', r) →
      w'.scroll % c.lineHeight = w.scroll % c.lineHeight ∧
        ∀ l : LogLine, w.display.lines[w.firstVisible]? = some l →
          (∀ b ∈ w.buffer, b.number < l.number → b.number ∈ w.display.numbers) →
          (w'.display.lines[w'.firstVisible]?).map (·.number) = some l.number) ∧
    (∀ {w' : Window} {p : StagedLines}, w.pending = some p →
      w.commitPrefetch = .ok (w', true) →
      w'.scroll = w.scroll +
          ((w.display.insertAll p.lines).size - w.display.size) * w.config.lineHeight ∧
        ∀ l : LogLine, 0 < w.config.lineHeight → w.display.lines[w.firstVisible]? = some l →
          (∀ s ∈ p.lines, s.number ∉ w.display.numbers → s.number < l.number) →
          w.firstVisible + ((w.display.insertAll p.lines).size - w.display.size) <
            w.config.maxDisplayLines →
          (w'.display.lines[w'.firstVisible]?).map (·.number) = some l.number) := by
  refine ⟨fun hc hrun hfollow h => Session.Run.flush_keeps_line_in_view hc hrun hfollow h,
    fun {w' p} hp h => ?_⟩
  have hadded : (w.display.insertAll p.lines).size - w.display.size =
      (w.display.added p.lines).length := by
    rw [LineMap.size_insertAll]
    omega
  rw [hadded]
  exact ⟨(Window.commitPrefetch_spliced hp h).1, fun l hlh hanchor hbelow hroom =>
    Window.commitPrefetch_keeps_anchor hp h hlh hanchor hbelow hroom⟩

/-- Five lines with the fourth in view, then line 2 resent and line 6 streamed: the
flush drops line 1 from the top and keeps line 4 in view; and a splice of lines
above the one in view. -/
theorem scroll_anchor_kept_pruned_and_spliced :
    ({ maxDisplayLines := 5, followThreshold := 1 } : WindowConfig).check = none ∧
      (∃ s, Session.Run Caller.wire (Session.start { maxDisplayLines := 5, followThreshold := 1 })
          [.setRows 1, .openTask 7,
            .complete ⟨1, 7, .tail, 0, 0⟩ (.ok ⟨[LogLine.numbered 1, LogLine.numbered 2,
              LogLine.numbered 3, LogLine.numbered 4, LogLine.numbered 5], 5⟩),
            .scroll (-1), .append 7 (LogLine.numbered 2), .append 7 (LogLine.numbered 6)] s ∧
        s.window.isFollowing = .ok false ∧
        s.window.display.lines[s.window.firstVisible]? = some (LogLine.numbered 4) ∧
        ∃ w' r, s.window.flush = .ok (w', r) ∧ r.pruned = 1 ∧ w'.scroll + 1 = s.window.scroll ∧
          (w'.display.lines[w'.firstVisible]?).map (·.number) = some 4) ∧
      ∃ w', ({ Window.new {} with
          task := some 7
          state := .lines
          display := LineMap.ofList [LogLine.numbered 3, LogLine.numbered 4]
          pending := some ⟨[LogLine.numbered 1, LogLine.numbered 2, LogLine.numbered 3], ⟨1, 3⟩⟩
          scroll := 1
          viewportHeight := 1 } : Window).commitPrefetch = .ok (w', true) ∧
        w'.scroll = 1 + 2 * 1 ∧ (w'.display.lines[w'.firstVisible]?).map (·.number) = some 4 := by
  have hc : ({ maxDisplayLines := 5, followThreshold := 1 } : WindowConfig).check = none := by
    decide
  have hrun := (((((((Session.Run.nil : Session.Run Caller.wire
      (Session.start { maxDisplayLines := 5, followThreshold := 1 }) [] _).perform
    (.setRows 1) trivial rfl).perform (.openTask 7) trivial rfl).perform
      (.complete ⟨1, 7, .tail, 0, 0⟩ (.ok ⟨[LogLine.numbered 1, LogLine.numbered 2,
        LogLine.numbered 3, LogLine.numbered 4, LogLine.numbered 5], 5⟩))
      ⟨by decide, .inr ⟨["line 1", "line 2", "line 3", "line 4", "line 5"], 5, _, rfl, rfl⟩⟩
      rfl).perform (.scroll (-1)) trivial rfl).perform (.append 7 (LogLine.numbered 2)) trivial
      rfl).perform (.append 7 (LogLine.numbered 6)) trivial rfl)
  have h₁ := ((scroll_anchor_kept _).1 hc hrun rfl rfl).2 (LogLine.numbered 4) rfl (by decide)
  have h₂ := (scroll_anchor_kept { Window.new {} with
      task := some 7
      state := .lines
      display := LineMap.ofList [LogLine.numbered 3, LogLine.numbered 4]
      pending := some ⟨[LogLine.numbered 1, LogLine.numbered 2, LogLine.numbered 3], ⟨1, 3⟩⟩
      scroll := 1
      viewportHeight := 1 }).2 rfl rfl
  exact ⟨hc, ⟨_, hrun, rfl, rfl, _, _, rfl, rfl, rfl, h₁⟩,
    ⟨_, rfl, h₂.1, h₂.2 (LogLine.numbered 4) (by decide) rfl (by decide) (by decide)⟩⟩

namespace Session

/-- A line streamed above the one in view moves it down a line: the window
does not follow, the flush keeps the offset, and line 1 takes line 2's place. -/
theorem flush_shifts_anchor :
    ∃ s, Run Caller.wire (start { followThreshold := 1 })
        [.setRows 1, .openTask 7,
          .complete ⟨1, 7, .tail, 0, 0⟩ (.ok ⟨[LogLine.numbered 2, LogLine.numbered 3], 3⟩),
          .toTop, .append 7 (LogLine.numbered 1)] s ∧
      s.window.isFollowing = .ok false ∧
      (s.window.display.lines[s.window.firstVisible]?).map (·.number) = some 2 ∧
      ∃ w' r, s.window.flush = .ok (w', r) ∧ w'.scroll = s.window.scroll ∧
        (w'.display.lines[w'.firstVisible]?).map (·.number) = some 1 := by
  have hrun := (((((Run.nil : Run Caller.wire (start { followThreshold := 1 }) [] _).perform
    (.setRows 1) trivial rfl).perform (.openTask 7) trivial rfl).perform
      (.complete ⟨1, 7, .tail, 0, 0⟩ (.ok ⟨[LogLine.numbered 2, LogLine.numbered 3], 3⟩))
      ⟨by decide, .inr ⟨["line 2", "line 3"], 3, _, rfl, rfl⟩⟩ rfl).perform .toTop trivial
    rfl).perform (.append 7 (LogLine.numbered 1)) trivial rfl
  exact ⟨_, hrun, rfl, rfl, _, _, rfl, rfl, rfl⟩

end Session

end TaskConsole
