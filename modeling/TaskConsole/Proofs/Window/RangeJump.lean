import TaskConsole.Proofs.Numbering
import TaskConsole.Proofs.Window.Contiguity
import TaskConsole.Proofs.Window.Flush

/-! A range jump trusts the reply, not the request (`Session.range_jump_trusts_reply`);
four lines of a quarter-word height at the log's end overflow
(`Session.range_jump_tall_lines_overflow`). -/

namespace TaskConsole

namespace LogChunk

/-- A range read of at least one text, with bounds `1 ≤ first ≤ last` and a
length that fit in a word: its lines ascend from `first` to `first + k - 1`, for
the `k` texts it keeps, and it reports the log's length. -/
theorem ofTexts_range {first last total : Nat} {texts : List String} (hfirst : 1 ≤ first)
    (hle : first ≤ last) (hlast : last < wordBound) (htotal : total < wordBound)
    (hcount : texts.length < wordBound) (hne : texts ≠ []) :
    ∃ chunk lo hi, ofTexts first last texts total = .ok chunk ∧ chunk.totalLines = total ∧
      Ascending chunk.lines ∧ chunk.lines.length = min texts.length (last - first + 1) ∧
      chunk.lines.head? = some lo ∧ chunk.lines.getLast? = some hi ∧ lo.number = first ∧
      hi.number = first + min texts.length (last - first + 1) - 1 := by
  obtain ⟨chunk, hof, htot, hnums, -⟩ :=
    ofTexts_eq_wireNumbers (.inr ⟨hfirst, hle⟩) hlast htotal hcount fun h => absurd h.1 (by omega)
  have hk : 0 < min texts.length (last - first + 1) := by
    have := List.length_pos_iff.mpr hne
    omega
  have hrange : chunk.lines.map (·.number) =
      List.range' first (min texts.length (last - first + 1)) := by
    rw [hnums, wireNumbers, if_neg (by omega)]
  -- the first and last numbers of the range are the first and last lines' numbers
  have hfirstLine : chunk.lines.head?.map (·.number) = some first := by
    rw [← List.head?_map, hrange, List.head?_range', if_neg (by omega)]
  have hlastLine : chunk.lines.getLast?.map (·.number) =
      some (first + min texts.length (last - first + 1) - 1) := by
    rw [← List.getLast?_map, hrange, List.getLast?_range', if_neg (by omega)]
  obtain ⟨lo, hlo, hlon⟩ := Option.map_eq_some_iff.mp hfirstLine
  obtain ⟨hi, hhi, hhin⟩ := Option.map_eq_some_iff.mp hlastLine
  refine ⟨chunk, lo, hi, hof, htot, ?_, by simpa using congrArg List.length hrange, hlo, hhi,
    hlon, hhin⟩
  -- the numbers ascend, so the lines do
  have hasc : (chunk.lines.map (·.number)).Pairwise (· < ·) := by
    rw [hrange]
    exact List.pairwise_lt_range'
  exact List.pairwise_map.mp hasc

end LogChunk

namespace Window

variable {w : Window}

/-- A range jump with the task open and no tail or range load outstanding hands
out a range ticket of a new generation, drops what was staged, and brings the
first batch back. -/
theorem loadRange_issues {first last task : Nat} (hfirst : 1 ≤ first) (hle : first ≤ last)
    (htask : w.task = some task) (hidle : w.inFlight.any (fun t => t.kind != .prefetch) = false) :
    ∃ w₁ t, w.loadRange first last = .ok (w₁, some t) ∧
      t = ⟨w.generation + 1, task, .range, first, last⟩ ∧
      w₁ = { w with
        generation := w.generation + 1
        pending := none
        batchSize := w.config.initialBatch
        moreAbove := false
        inFlight := some t } := by
  refine ⟨_, _, ?_, rfl, rfl⟩
  unfold loadRange
  rw [if_neg (by omega), htask]
  simp only [hidle, Bool.false_eq_true, if_false]
  rfl

/-- A range reply of ascending lines `lo..hi` is shown trimmed to the bound and loaded
from `lo` to `hi`, at the bottom when `hi` is the last line known, else at the top. -/
theorem applyPrimary_range {ticket : LoadTicket} {chunk : LogChunk} {lo hi : LogLine}
    (hkind : ticket.kind = .range) (hasc : Ascending chunk.lines)
    (hlo : chunk.lines.head? = some lo) (hhi : chunk.lines.getLast? = some hi)
    (hlh : 0 < w.config.lineHeight) {rows : Nat}
    (hrows : w.viewportHeight = rows * w.config.lineHeight) (hview : rows < wordBound)
    (hfit : chunk.lines.length * w.config.lineHeight < wordBound) :
    ∃ d pre suf, chunk.lines = pre ++ d.lines ++ suf ∧
      d.size = min chunk.lines.length w.config.maxDisplayLines ∧
      w.applyPrimary ticket (.ok chunk) = .ok ({ w with
          totalLines := max (max w.totalLines chunk.totalLines) hi.number
          loaded := some ⟨lo.number, hi.number⟩
          moreAbove := decide (lo.number > 1)
          state := .lines
          display := d
          scroll := if hi.number = max (max w.totalLines chunk.totalLines) hi.number then
            d.size * w.config.lineHeight - w.viewportHeight else 0 }, .applied) := by
  have hne : chunk.lines ≠ [] := fun h => by rw [h] at hlo; cases hlo
  let D : LineMap := ⟨chunk.lines, hasc⟩
  have hD : LineMap.ofList chunk.lines = D := LineMap.ext_lines (LineMap.ofList_lines hasc)
  have hprim : w.primaryLines ticket.kind chunk.lines = chunk.lines := by
    simp [primaryLines, hkind]
  have hsize : D.size < wordBound := Nat.lt_of_le_of_lt (Nat.le_mul_of_pos_right _ hlh) hfit
  have hpos : D.size ≠ 0 := fun h => hne (List.eq_nil_of_length_eq_zero h)
  -- the window before it scrolls, with the whole reply shown
  let W : Window := { w with
    totalLines := max (max w.totalLines chunk.totalLines) hi.number
    loaded := some ⟨lo.number, hi.number⟩
    moreAbove := decide (lo.number > 1)
    state := .lines
    display := D }
  -- a range carries no streamed lines, so what is left is the scrolling and pruning
  have hcomp : w.applyPrimary ticket (.ok chunk) =
      (if hi.number = max (max w.totalLines chunk.totalLines) hi.number then do
        let v ← W.scrollToBottom
        let p ← v.prune .farthest
        let v ← p.1.scrollToBottom
        pure (v, .applied)
      else do
        let p ← { W with scroll := 0 }.prune .farthest
        pure (p.1, .applied)) := by
    unfold applyPrimary
    dsimp only
    rw [if_neg (by simp [hne])]
    dsimp only
    rw [checked_ite_bind, if_neg (by rw [hkind]; decide)]
    simp only [bind, Except.bind, pure, Except.pure, hprim, hlo, hhi, Option.map_some,
      List.min?_nil, Option.orElse_eq_orElse, Option.orElse_eq_or, Option.or_none, List.max?_nil,
      Option.max_none_right, LineMap.lines_empty, LineMap.insertAll_nil, hD, if_neg hpos]
    split <;> rfl
  by_cases hat : hi.number = max (max w.totalLines chunk.totalLines) hi.number
  · -- at the tail: to the bottom, prune from the top, to the bottom again
    have hbottom : ({ W with scroll := D.size * w.config.lineHeight - w.viewportHeight } :
        Window).scroll = (D.size - rows) * w.config.lineHeight := by
      show D.size * w.config.lineHeight - w.viewportHeight = _
      rw [hrows, Nat.sub_mul]
    obtain ⟨v, pre, hprune, hlines, hvsize, hv⟩ :=
      prune_at_bottom (w := { W with scroll := D.size * w.config.lineHeight - w.viewportHeight })
        rfl hlh hrows hview hsize hbottom
    have hvfit : v.display.size * v.config.lineHeight < wordBound := by
      have hle : v.display.size ≤ D.size := by rw [hvsize]; exact Nat.min_le_left _ _
      have hconfig : v.config = w.config := by rw [hv]
      rw [hconfig]
      exact Nat.lt_of_le_of_lt (Nat.mul_le_mul_right _ hle) hfit
    refine ⟨v.display, pre, [], by rw [List.append_nil]; exact hlines, hvsize, ?_⟩
    rw [hcomp, if_pos hat, checked_bind_ok (scrollToBottom_of_fits (w := W) hfit),
      checked_bind_ok hprune]
    dsimp only
    rw [checked_bind_ok (scrollToBottom_of_fits (w := v) hvfit), if_pos hat]
    conv => lhs; rw [hv]
    rfl
  · -- above the tail: to the top, prune from either end
    have hrowsview : ({ W with scroll := 0 } : Window).viewportRows < wordBound := by
      show w.viewportHeight / w.config.lineHeight < wordBound
      rw [hrows, Nat.mul_div_cancel _ hlh]
      exact hview
    obtain ⟨v, pre, suf, hprune, hlines, hvsize, hv⟩ :=
      prune_at_top (w := { W with scroll := 0 }) rfl rfl hrowsview
    refine ⟨v.display, pre, suf, hlines, hvsize, ?_⟩
    rw [hcomp, if_neg hat, checked_bind_ok hprune, if_neg hat]
    conv => lhs; rw [hv]
    rfl

/-- A range jump of a window with whole rows applies the reply: loaded from `first` to
`first + k - 1` for the `k` texts kept, whatever `last` was. -/
theorem rangeJump_applies_reply {task rows first last total : Nat} {texts : List String}
    (htask : w.task = some task) (hidle : w.inFlight.any (fun t => t.kind != .prefetch) = false)
    (hlh : 0 < w.config.lineHeight) (hrows : w.viewportHeight = rows * w.config.lineHeight)
    (hview : rows < wordBound) (hfirst : 1 ≤ first) (hle : first ≤ last)
    (hlast : last < wordBound) (htotal : total < wordBound) (hne : texts ≠ [])
    (hcount : texts.length < wordBound)
    (hfit : min texts.length (last - first + 1) * w.config.lineHeight < wordBound) :
    ∃ w₁ t chunk w₂, w.loadRange first last = .ok (w₁, some t) ∧
      LogChunk.ofTexts first last texts total = .ok chunk ∧
      w₁.complete t (.ok chunk) = .ok (w₂, .applied) ∧
      w₂.loaded = some ⟨first, first + min texts.length (last - first + 1) - 1⟩ ∧
      w₂.moreAbove = decide (first > 1) ∧
      w₂.totalLines =
        max (max w.totalLines total) (first + min texts.length (last - first + 1) - 1) ∧
      w₂.pending = none ∧ w₂.batchSize = w.config.initialBatch ∧ w₂.state = .lines ∧
      (∃ pre suf, chunk.lines = pre ++ w₂.display.lines ++ suf) ∧
      w₂.display.size = min (min texts.length (last - first + 1)) w.config.maxDisplayLines ∧
      (first + min texts.length (last - first + 1) - 1 = w₂.totalLines →
        w₂.maxScroll = .ok w₂.scroll) ∧
      (first + min texts.length (last - first + 1) - 1 ≠ w₂.totalLines → w₂.scroll = 0) := by
  obtain ⟨chunk, lo, hi, hof, htot, hasc, hlen, hlo, hhi, hlon, hhin⟩ :=
    LogChunk.ofTexts_range hfirst hle hlast htotal hcount hne
  obtain ⟨w₁, t, hjump, ht, hw₁⟩ := loadRange_issues hfirst hle htask hidle
  -- the jumped window holds the ticket it handed out, and the old window's settings
  have hcurrent : t.generation = w₁.generation ∧ w₁.task = some t.task ∧ t.kind = .range ∧
      w₁.inFlight = some t := by
    rw [hw₁, ht]
    exact ⟨rfl, htask, rfl, rfl⟩
  have hw₁config : w₁.config = w.config := by rw [hw₁]
  have hw₁view : w₁.viewportHeight = w.viewportHeight := by rw [hw₁]
  obtain ⟨hgen, htask₁, hkind, hflight⟩ := hcurrent
  -- the reply is taken as a primary result, by the window without its load in flight
  have hcomp : w₁.complete t (.ok chunk) =
      ({ w₁ with inFlight := none } : Window).applyPrimary t (.ok chunk) := by
    rw [complete_primary hgen htask₁ (by rw [hkind]; decide), if_pos hflight]
  obtain ⟨d, pre, suf, hlines, hsize, happ⟩ :=
    applyPrimary_range (w := { w₁ with inFlight := none }) hkind hasc hlo hhi
      (by rw [← hw₁config] at hlh; exact hlh)
      (show w₁.viewportHeight = rows * w₁.config.lineHeight by rw [hw₁view, hw₁config]; exact hrows)
      hview (show chunk.lines.length * w₁.config.lineHeight < wordBound by
        rw [hlen, hw₁config]; exact hfit)
  -- the reply reaches the last line the window knows of exactly when it is at the tail
  have hlast' : (first + min texts.length (last - first + 1) - 1 =
      max (max w₁.totalLines chunk.totalLines) hi.number) ↔
      hi.number = max (max w₁.totalLines chunk.totalLines) hi.number := by
    rw [hhin]
  have hdfit : d.size * w₁.config.lineHeight < wordBound := by
    have hle' : d.size ≤ min texts.length (last - first + 1) := by
      rw [hsize, hlen]
      exact Nat.min_le_left _ _
    rw [hw₁config]
    exact Nat.lt_of_le_of_lt (Nat.mul_le_mul_right _ hle') hfit
  refine ⟨w₁, t, chunk, _, hjump, hof, hcomp.trans happ, ?_, ?_, ?_, ?_, ?_, rfl, ?_, ?_,
    fun hat => ?_, fun hat => ?_⟩
  · show some (⟨lo.number, hi.number⟩ : LineRange) = _
    rw [hlon, hhin]
  · show decide (lo.number > 1) = _
    rw [hlon]
  · show max (max w₁.totalLines chunk.totalLines) hi.number = _
    rw [hw₁, htot, hhin]
  · show w₁.pending = none
    rw [hw₁]
  · show w₁.batchSize = w.config.initialBatch
    rw [hw₁]
  · exact ⟨pre, suf, hlines⟩
  · show d.size = _
    rw [hsize, hlen]
    show min _ w₁.config.maxDisplayLines = _
    rw [hw₁config]
  · -- at the tail the window scrolls to the bottom
    rw [maxScroll_of_fits hdfit]
    show _ = Except.ok (if hi.number = _ then _ else _)
    rw [if_pos (hlast'.mp hat)]
  · show (if hi.number = _ then _ else _) = 0
    rw [if_neg (mt hlast'.mpr hat)]

end Window

namespace Session

/-- A range jump trusts the reply, not the request: from any reachable window the
reply of `k` texts loads `first` to `first + k - 1` and shows only its lines. -/
theorem range_jump_trusts_reply {c : WindowConfig} (hc : c.check = none) {caller : Caller}
    {ops : List WindowOp} {s : Session} (h : Run caller (start c) ops s) {task : Nat}
    (htask : s.window.task = some task)
    (hidle : s.window.inFlight.any (fun t => t.kind != .prefetch) = false)
    {first last total : Nat} {texts : List String} (hfirst : 1 ≤ first) (hle : first ≤ last)
    (hlast : last < wordBound) (htotal : total < wordBound) (hne : texts ≠ [])
    (hcount : texts.length < wordBound)
    (hfit : min texts.length (last - first + 1) * c.lineHeight < wordBound) :
    ∃ w₁ t chunk w₂, s.window.loadRange first last = .ok (w₁, some t) ∧
      LogChunk.ofTexts first last texts total = .ok chunk ∧
      w₁.complete t (.ok chunk) = .ok (w₂, .applied) ∧
      w₂.loaded = some ⟨first, first + min texts.length (last - first + 1) - 1⟩ ∧
      w₂.moreAbove = decide (first > 1) ∧
      w₂.totalLines =
        max (max s.window.totalLines total) (first + min texts.length (last - first + 1) - 1) ∧
      w₂.pending = none ∧ w₂.batchSize = c.initialBatch ∧ w₂.state = .lines ∧
      (∃ pre suf, chunk.lines = pre ++ w₂.display.lines ++ suf) ∧
      w₂.display.size = min (min texts.length (last - first + 1)) c.maxDisplayLines ∧
      (first + min texts.length (last - first + 1) - 1 = w₂.totalLines →
        w₂.maxScroll = .ok w₂.scroll) ∧
      (first + min texts.length (last - first + 1) - 1 ≠ w₂.totalLines → w₂.scroll = 0) := by
  -- a reachable window has the settings it started with and a viewport of whole rows
  have hconfig : s.window.config = c := h.config
  have hlh : 0 < c.lineHeight := (WindowConfig.sizes_of_check hc).lineHeight_pos
  obtain ⟨rows, hrows, hvh⟩ := Run.viewport_rows h
  have hview : rows < wordBound := by
    rw [hconfig] at hrows
    exact Nat.lt_of_le_of_lt (Nat.le_mul_of_pos_right _ hlh) (hrows ▸ hvh)
  rw [← hconfig] at hlh hfit ⊢
  exact Window.rangeJump_applies_reply htask hidle hlh hrows hview hfirst hle hlast htotal hne
    hcount hfit

/-- After the tail read of a newly opened task fails, a jump to lines 1 to 2
answered with two texts of a two-line log loads lines 1 to 2. -/
theorem range_jump_trusts_reply_after_failed_tail :
    ({} : WindowConfig).check = none ∧
      ∃ s, Run Caller.wire (start {})
        [.openTask 7, .complete ⟨1, 7, .tail, 0, 0⟩ (.error .noData)] s ∧
        s.window.task = some 7 ∧ s.window.inFlight.any (fun t => t.kind != .prefetch) = false ∧
        ∃ w₁ t chunk w₂, s.window.loadRange 1 2 = .ok (w₁, some t) ∧
          LogChunk.ofTexts 1 2 ["a", "b"] 2 = .ok chunk ∧
          w₁.complete t (.ok chunk) = .ok (w₂, .applied) ∧ w₂.loaded = some ⟨1, 2⟩ := by
  have hc : ({} : WindowConfig).check = none := by decide
  have hrun := ((Run.nil : Run Caller.wire (start {}) [] _).perform (.openTask 7) trivial
    rfl).perform (.complete ⟨1, 7, .tail, 0, 0⟩ (.error .noData)) ⟨by decide, .inl ⟨_, rfl⟩⟩ rfl
  obtain ⟨w₁, t, chunk, w₂, hjump, hof, hcomp, hloaded, -⟩ :=
    range_jump_trusts_reply hc hrun rfl rfl (Nat.le_refl 1) (show 1 ≤ 2 by decide)
      (show 2 < wordBound by decide) (show 2 < wordBound by decide)
      (show ["a", "b"] ≠ [] by decide) (show ["a", "b"].length < wordBound by decide)
      (by decide)
  exact ⟨hc, _, hrun, rfl, rfl, w₁, t, chunk, w₂, hjump, hof, hcomp, hloaded⟩

/-- With a line height of a quarter of a word, which a configuration file can
give, a jump to lines 1 to 4 answered with the log's four lines reaches the tail,
and scrolling to the bottom of the four lines leaves the word. -/
theorem range_jump_tall_lines_overflow :
    ({ lineHeight := Nat.pow 2 62 } : WindowConfig).check = none ∧
      ∃ s, Run Caller.wire (start { lineHeight := Nat.pow 2 62 })
        [.openTask 7, .complete ⟨1, 7, .tail, 0, 0⟩ (.error .noData)] s ∧
        ∃ w₁ t chunk, s.window.loadRange 1 4 = .ok (w₁, some t) ∧
          LogChunk.ofTexts 1 4 ["a", "b", "c", "d"] 4 = .ok chunk ∧
          w₁.complete t (.ok chunk) = .error .multiply := by
  have hrun := ((Run.nil : Run Caller.wire (start { lineHeight := Nat.pow 2 62 }) [] _).perform
    (.openTask 7) trivial rfl).perform (.complete ⟨1, 7, .tail, 0, 0⟩ (.error .noData))
      ⟨by decide, .inl ⟨_, rfl⟩⟩ rfl
  exact ⟨by decide, _, hrun, _, _, _, rfl, rfl, rfl⟩

end Session

end TaskConsole
