import TaskConsole.Proofs.Window.Consistency
import TaskConsole.Proofs.Window.Contiguity

/-! The newest line at the bottom: shown while the log fits the display
(`newest_line_shown_at_bottom`), lost once pruning gives it away
(`bottom_misses_newest_line`). -/

namespace TaskConsole

namespace Window

variable {w w' : Window}

theorem scrollToBottom_eq_maxScroll (h : w.scrollToBottom = .ok w') :
    ∃ m, w.maxScroll = .ok m ∧ w' = { w with scroll := m } := by
  obtain ⟨m, hm, h⟩ := checked_bind_eq_ok h
  exact ⟨m, hm, (checked_pure_eq_ok h).symm⟩

/-- The largest scroll offset is the content height less the viewport's, and the
content height fits in a word. -/
theorem maxScroll_eq_ok {m : Nat} (h : w.maxScroll = .ok m) :
    w.display.size * w.config.lineHeight < wordBound ∧
      m = w.display.size * w.config.lineHeight - w.viewportHeight := by
  obtain ⟨hgt, hh, h⟩ := checked_bind_eq_ok h
  obtain ⟨hfit, rfl⟩ := Word.mul_eq_ok_iff.mp hh
  exact ⟨hfit, (checked_pure_eq_ok h).symm⟩

/-- Of `n` lines of height `L` scrolled to `n * L - v`, a viewport of height
`v ≥ L` starts at a line `k < n` and its `⌈v / L⌉` rows reach the last line. -/
theorem bottom_rows_reach_last {n L v : Nat} (hL : 0 < L) (hv : L ≤ v) (hn : 0 < n) :
    (n * L - v) / L < n ∧ n ≤ (n * L - v) / L + (v + L - 1) / L := by
  have hk1 := Nat.div_mul_le_self (n * L - v) L
  have hk2 := Nat.lt_div_mul_add (a := n * L - v) hL
  have hr := Nat.div_add_mod (v + L - 1) L
  have hr2 := Nat.mod_lt (v + L - 1) hL
  have hnL : L ≤ n * L := Nat.le_mul_of_pos_left L hn
  generalize (n * L - v) / L = k at hk1 hk2 ⊢
  generalize (v + L - 1) / L = r at hr hr2 ⊢
  -- the products are atoms for `omega` once named
  constructor
  · refine Nat.lt_of_not_le fun hkn => ?_
    have := Nat.mul_le_mul_right L hkn
    generalize n * L = N at *
    generalize k * L = K at *
    omega
  · refine Nat.le_of_not_lt fun hlt => ?_
    have := Nat.mul_le_mul_right L (Nat.succ_le_of_lt hlt)
    rw [Nat.succ_mul, Nat.add_mul, Nat.mul_comm r L] at this
    generalize n * L = N at *
    generalize k * L = K at *
    generalize L * r = R at *
    omega

/-- At the largest scroll offset a viewport at least one line tall shows the last
line of the display. -/
theorem getLast_mem_visibleLines (hrows : 1 ≤ w.viewportRows) (hne : w.display.lines ≠ [])
    (hm : w.maxScroll = .ok w.scroll) : w.display.lines.getLast hne ∈ w.visibleLines := by
  obtain ⟨-, hscroll⟩ := maxScroll_eq_ok hm
  have hL : 0 < w.config.lineHeight := Nat.pos_of_ne_zero fun h => by
    simp [viewportRows, h] at hrows
  have hv : w.config.lineHeight ≤ w.viewportHeight := by
    simpa [viewportRows] using (Nat.le_div_iff_mul_le hL).mp hrows
  have hn : 0 < w.display.lines.length := List.length_pos_iff.mpr hne
  obtain ⟨hk, hr⟩ := bottom_rows_reach_last hL hv hn
  unfold visibleLines firstVisible
  rw [hscroll]
  simp only [LineMap.size] at hk hr ⊢
  rw [List.getLast_eq_getElem, List.mem_iff_getElem]
  -- the last line sits `n - 1 - k` rows below the first one shown
  refine ⟨w.display.lines.length - 1 - (w.display.lines.length * w.config.lineHeight -
    w.viewportHeight) / w.config.lineHeight, ?_, ?_⟩
  · simp only [List.length_take, List.length_drop]
    omega
  · rw [List.getElem_take, List.getElem_drop]
    congr 1
    omega

theorem flush_buffer {r : FlushReport} (h : w.flush = .ok (w', r)) : w'.buffer = [] := by
  rcases flush_eq h with ⟨hnil, rfl⟩ | ⟨d, s, -, rfl, -⟩
  · exact hnil
  · rfl

theorem flush_viewportRows {r : FlushReport} (h : w.flush = .ok (w', r)) :
    w'.viewportRows = w.viewportRows := by
  rcases flush_eq h with ⟨-, rfl⟩ | ⟨d, s, -, rfl, -⟩ <;> rfl

variable {task n lo d : Nat}

/-- With nothing buffered, the display of an abutting window reaches the end of
the log. -/
theorem Abutting.flushed (ha : w.Abutting task n lo d) (hbuf : w.buffer = []) : d = n := by
  have hcovered : ¬ d < n := fun hlt => by
    simpa [hbuf] using ha.covered n hlt (Nat.le_refl n)
  have := ha.bounds.2
  omega

/-- The last line of a display that holds `lo` to `n` is line `n`. -/
theorem Abutting.getLast_number (ha : w.Abutting task n lo n) (hne : lo ≤ n) :
    w.display.lines.getLast?.map (·.number) = some n := by
  rw [← List.getLast?_map]
  show w.display.numbers.getLast? = some n
  rw [LineMap.numbers_eq_range' ha.display, List.getLast?_range', if_neg (by omega)]
  congr 1
  omega

end Window

namespace Session

variable {task : Nat} {log₀ log : NumberedLog} {ops : List WindowOp} {s : Session}

/-- A window fed by a server whose log holds no more lines than the display may,
showing lines with a viewport at least one line tall: after a flush, jumping to
the bottom leaves the newest line of the log last in the display, and visible. -/
theorem newest_line_shown_at_bottom {c : WindowConfig} (hmax : 0 < c.maxDisplayLines)
    (hflush : 0 < c.flushThreshold) (h : Served task log₀ (start c) ops log s)
    (hfit : log.length ≤ c.maxDisplayLines) (hlines : s.window.state = .lines)
    (hrows : 1 ≤ s.window.viewportRows) {w₁ w₂ : Window} {r : FlushReport}
    (hf : s.window.flush = .ok (w₁, r)) (hb : w₁.scrollToBottom = .ok w₂) :
    w₂.display.lines.getLast?.map (·.number) = some w₂.totalLines ∧
      ∃ l ∈ w₂.visibleLines, l.number = w₂.totalLines := by
  have hshown := (reachable_window_consistent hmax hflush h.run).lines_shown hlines
  -- only a window past its tail read shows lines
  obtain ⟨lo, d, ha⟩ : ∃ lo d, s.window.Abutting task log.length lo d := by
    cases h.fed hfit with
    | closed _ hdisplay => simp [LineMap.size, hdisplay] at hshown
    | loading _ hloading => rw [hloading] at hlines; cases hlines
    | tailIn ha => exact ⟨_, _, ha⟩
  have hlo : lo ≤ log.length := by
    obtain ⟨l, hl⟩ := List.exists_mem_of_length_pos hshown
    have := (ha.display l.number).mp (List.mem_map_of_mem hl)
    have := ha.bounds.2
    omega
  obtain ⟨d', ha'⟩ := ha.flush (h.run.config ▸ hfit) hf
  obtain rfl := ha'.flushed (Window.flush_buffer hf)
  obtain ⟨m, hm, rfl⟩ := Window.scrollToBottom_eq_maxScroll hb
  have hlast := ha'.getLast_number hlo
  have hne : w₁.display.lines ≠ [] := fun hnil => by simp [hnil] at hlast
  refine ⟨by rw [ha'.total]; exact hlast, w₁.display.lines.getLast hne,
    Window.getLast_mem_visibleLines (w := { w₁ with scroll := m })
      (by rw [← Window.flush_viewportRows hf] at hrows; exact hrows) hne hm, ?_⟩
  rw [ha'.total]
  simpa [List.getLast?_eq_some_getLast hne] using hlast

/-- Three lines streamed into a display of at most a thousand: the third is last
and visible at the bottom. -/
theorem newest_line_shown_at_bottom_after_stream :
    ∃ s w₁ r w₂, Served 7 ⟨2⟩ (start {})
        [.setRows 2, .openTask 7, .complete ⟨1, 7, .tail, 0, 0⟩
          (.ok ⟨[LogLine.numbered 1, LogLine.numbered 2], 2⟩),
          .append 7 (LogLine.numbered 3)] ⟨3⟩ s ∧
      0 < ({} : WindowConfig).maxDisplayLines ∧ 0 < ({} : WindowConfig).flushThreshold ∧
      (⟨3⟩ : NumberedLog).length ≤ ({} : WindowConfig).maxDisplayLines ∧
      s.window.state = .lines ∧ 1 ≤ s.window.viewportRows ∧
      s.window.flush = .ok (w₁, r) ∧ w₁.scrollToBottom = .ok w₂ ∧
      w₂.display.lines.getLast?.map (·.number) = some w₂.totalLines ∧
      ∃ l ∈ w₂.visibleLines, l.number = w₂.totalLines := by
  have hrun := (((((Served.nil : Served 7 ⟨2⟩ (start {}) [] _ _).perform (.setRows 2)
    trivial rfl trivial).perform (.openTask 7) trivial rfl rfl).perform
      (.complete ⟨1, 7, .tail, 0, 0⟩ (.ok ⟨[LogLine.numbered 1, LogLine.numbered 2], 2⟩))
      ⟨by decide, wire_answers_read ⟨2⟩ rfl⟩ rfl ⟨_, rfl, rfl⟩).perform
    (.append 7 (LogLine.numbered 3)) trivial rfl ⟨rfl, rfl, by decide⟩)
  exact ⟨_, _, _, _, hrun, by decide, by decide, by decide, rfl, by decide, rfl, rfl,
    newest_line_shown_at_bottom (by decide) (by decide) hrun (by decide) rfl (by decide) rfl rfl⟩

/-- A display of at most two lines viewed one row at a time, fed two: with the
view at the top, line 3 is flushed in and given away at the bottom, so the
bottom shows line 2 while the log has three. -/
theorem bottom_misses_newest_line :
    ∃ s w₁ r w₂, Served 7 ⟨2⟩ (start { maxDisplayLines := 2, followThreshold := 1 })
        [.setRows 1, .openTask 7, .complete ⟨1, 7, .tail, 0, 0⟩
          (.ok ⟨[LogLine.numbered 1, LogLine.numbered 2], 2⟩), .toTop,
          .append 7 (LogLine.numbered 3), .flush] ⟨3⟩ s ∧
      s.window.state = .lines ∧ 1 ≤ s.window.viewportRows ∧
      s.window.flush = .ok (w₁, r) ∧ w₁.scrollToBottom = .ok w₂ ∧
      w₂.display.lines.getLast?.map (·.number) = some 2 ∧ w₂.totalLines = 3 := by
  have hrun := (((((((Served.nil : Served 7 ⟨2⟩
    (start { maxDisplayLines := 2, followThreshold := 1 }) [] _ _).perform (.setRows 1)
    trivial rfl trivial).perform (.openTask 7) trivial rfl rfl).perform
      (.complete ⟨1, 7, .tail, 0, 0⟩ (.ok ⟨[LogLine.numbered 1, LogLine.numbered 2], 2⟩))
      ⟨by decide, wire_answers_read ⟨2⟩ rfl⟩ rfl ⟨_, rfl, rfl⟩).perform
    .toTop trivial rfl trivial).perform (.append 7 (LogLine.numbered 3)) trivial rfl
      ⟨rfl, rfl, by decide⟩).perform .flush trivial rfl trivial)
  exact ⟨_, _, _, _, hrun, rfl, by decide, rfl, rfl, by decide, by decide⟩

end Session

end TaskConsole
