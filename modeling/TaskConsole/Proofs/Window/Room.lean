import TaskConsole.Proofs.Window.Anchor

/-! Room for window arithmetic: from a `Window.Roomy` window each operation passes all
its word checks, and each lemma says what it leaves of the room and the offset. -/

namespace TaskConsole

/-- Settings, arguments and line numbers up to this size keep every window
computation inside a word. -/
def safeSize : Nat := Nat.pow 2 30

/-- How far down a window scrolls between operations: twice the height of
`safeSize + 1` lines. -/
def scrollCap : Nat := 2 * ((safeSize + 1) * safeSize)

/-- How far down a window scrolls inside an operation: a splice moves the scroll
offset down by the height of the lines it adds before the bottom gives way. -/
def roomCap : Nat := scrollCap + (safeSize + 1) * safeSize

theorem roomCap_eq : roomCap = scrollCap + (safeSize + 1) * safeSize := rfl

theorem scrollCap_eq : scrollCap = (safeSize + 1) * safeSize + (safeSize + 1) * safeSize := by
  unfold scrollCap
  omega

/-- The largest sum an operation computes: a scroll offset within the room and a
viewport's height, or the height of a scroll by `safeSize` lines. -/
theorem roomCap_fits : roomCap + safeSize * safeSize < wordBound := by decide

theorem safeSize_lt_wordMax : safeSize + safeSize < wordMax := by decide

theorem checked_bind_ok {α β : Type} {x : Checked α} {f : α → Checked β} {a : α}
    (h : x = .ok a) : (x >>= f) = f a := by
  rw [h]
  rfl

/-- A computation that returns, with a value of property `P`. -/
def Returns {α : Type} (x : Checked α) (P : α → Prop) : Prop :=
  ∃ a, x = .ok a ∧ P a

namespace Returns

variable {α β : Type} {x : Checked α} {P Q : α → Prop}

theorem of_eq {a : α} (hx : x = .ok a) (h : P a) : Returns x P := ⟨a, hx, h⟩

theorem pure {a : α} (h : P a) : Returns (pure a : Checked α) P := ⟨a, rfl, h⟩

theorem mono (hx : Returns x Q) (h : ∀ a, Q a → P a) : Returns x P := by
  obtain ⟨a, hxa, hq⟩ := hx
  exact ⟨a, hxa, h a hq⟩

/-- What a computation that returns is known to return has the property. -/
theorem elim {a : α} (hx : Returns x P) (h : x = .ok a) : P a := by
  obtain ⟨b, hxb, hp⟩ := hx
  rw [h] at hxb
  cases hxb
  exact hp

/-- The second computation returns from every value the first may return. -/
theorem bind {f : α → Checked β} {R : β → Prop} (hx : Returns x Q)
    (hf : ∀ a, Q a → Returns (f a) R) : Returns (x >>= f) R := by
  obtain ⟨a, hxa, hq⟩ := hx
  obtain ⟨b, hfb, hr⟩ := hf a hq
  exact ⟨b, by rw [hxa]; exact hfb, hr⟩

end Returns

/-- A list of distinct numbers from `a` up to `b` has at most `b - a` of them. -/
theorem length_le_of_nodup_bounds {l : List Nat} {a b : Nat} (hnd : l.Nodup)
    (h : ∀ k ∈ l, a ≤ k ∧ k < b) : l.length ≤ b - a := by
  have hsub : l ⊆ List.range' a (b - a) := fun k hk => by
    obtain ⟨h1, h2⟩ := h k hk
    exact List.mem_range'_1.mpr ⟨h1, by omega⟩
  simpa using hnd.length_le_of_subset hsub

/-- A map of lines numbered up to `n` holds at most `n + 1` lines. -/
theorem LineMap.size_le_of_numbers_le {m : LineMap} {n : Nat} (h : ∀ l ∈ m.lines, l.number ≤ n) :
    m.size ≤ n + 1 := by
  have hlen := length_le_of_nodup_bounds m.numbers_nodup (a := 0) (b := n + 1) fun k hk => by
    obtain ⟨l, hl, rfl⟩ := List.mem_map.mp hk
    exact ⟨Nat.zero_le _, Nat.lt_succ_of_le (h l hl)⟩
  simpa [LineMap.numbers, LineMap.size] using hlen

namespace Window

variable {w w' : Window}

/-- Room for every computation of one operation: a line height of at most
`safeSize`, displayed lines numbered up to `safeSize`, a viewport of at most
`safeSize` rows of that height, and a scroll offset within `roomCap`. -/
structure Roomy (w : Window) : Prop where
  lineHeight_le : w.config.lineHeight ≤ safeSize
  numbers_le : ∀ l ∈ w.display.lines, l.number ≤ safeSize
  height_le : w.viewportHeight ≤ safeSize * safeSize
  scroll_le : w.scroll ≤ roomCap

theorem Roomy.display_le (hw : w.Roomy) : w.display.size ≤ safeSize + 1 :=
  LineMap.size_le_of_numbers_le hw.numbers_le

theorem Roomy.content_le (hw : w.Roomy) :
    w.display.size * w.config.lineHeight ≤ (safeSize + 1) * safeSize :=
  Nat.mul_le_mul hw.display_le hw.lineHeight_le

theorem Roomy.content_fits (hw : w.Roomy) : w.display.size * w.config.lineHeight < wordBound := by
  have := hw.content_le
  have := roomCap_fits
  rw [roomCap_eq] at this
  omega

/-- The scroll offset may go anywhere within the room. -/
theorem Roomy.withScroll (hw : w.Roomy) {s : Nat} (hs : s ≤ roomCap) : { w with scroll := s }.Roomy :=
  ⟨hw.lineHeight_le, hw.numbers_le, hw.height_le, hs⟩

/-- A window with the same line height, lines numbered up to `safeSize`, and a
viewport and scroll offset no larger than a roomy one's has room too. -/
theorem Roomy.of_display (hw : w.Roomy) {v : Window}
    (hd : ∀ l ∈ v.display.lines, l.number ≤ safeSize)
    (hc : v.config.lineHeight = w.config.lineHeight) (hh : v.viewportHeight ≤ w.viewportHeight)
    (hs : v.scroll ≤ w.scroll) : v.Roomy :=
  ⟨hc ▸ hw.lineHeight_le, hd, Nat.le_trans hh hw.height_le, Nat.le_trans hs hw.scroll_le⟩

/-- The bottom of a roomy window is within the room. -/
theorem Roomy.bottom_le (hw : w.Roomy) :
    w.display.size * w.config.lineHeight - w.viewportHeight ≤ roomCap := by
  have := hw.content_le
  rw [roomCap_eq]
  omega

theorem Roomy.isFollowing_ok (hw : w.Roomy) : Returns w.isFollowing fun _ => True := by
  unfold isFollowing contentHeight
  rw [checked_bind_ok (Word.mul_eq_ok hw.content_fits)]
  exact .pure trivial

theorem clampScroll_of_fits (h : w.display.size * w.config.lineHeight < wordBound) :
    w.clampScroll =
      .ok { w with scroll := min w.scroll (w.display.size * w.config.lineHeight - w.viewportHeight) } := by
  unfold clampScroll
  rw [checked_bind_ok (maxScroll_of_fits h)]
  rfl

/-- Scrolling to the bottom, or keeping the offset within the content, leaves the
view within the content. -/
theorem Roomy.scrollToBottom_ok (hw : w.Roomy) :
    Returns w.scrollToBottom fun v => v.Roomy ∧ v.scroll ≤ v.display.size * v.config.lineHeight :=
  .of_eq (scrollToBottom_of_fits hw.content_fits) ⟨hw.withScroll hw.bottom_le, Nat.sub_le _ _⟩

theorem Roomy.clampScroll_ok (hw : w.Roomy) :
    Returns w.clampScroll fun v => v.Roomy ∧ v.scroll ≤ v.display.size * v.config.lineHeight :=
  .of_eq (clampScroll_of_fits hw.content_fits)
    ⟨hw.withScroll (Nat.le_trans (Nat.min_le_right _ _) hw.bottom_le),
      Nat.le_trans (Nat.min_le_right _ _) (Nat.sub_le _ _)⟩

/-- One pruning step drops a line and moves the scroll offset up at most; the
bottom's step leaves it. -/
theorem Roomy.pruneStep_ok (hw : w.Roomy) (trim : Trim) :
    Returns (w.pruneStep trim) fun w' => w'.Roomy ∧ w'.scroll ≤ w.scroll ∧
      (trim = .bottom → w'.scroll = w.scroll) := by
  -- the first line in view and the rows in view count lines no higher than the offsets
  have hreach : w.firstVisible + w.viewportRows < wordBound := by
    have h1 : w.firstVisible ≤ w.scroll := Nat.div_le_self _ _
    have h2 : w.viewportRows ≤ w.viewportHeight := Nat.div_le_self _ _
    have := hw.scroll_le
    have := hw.height_le
    have := roomCap_fits
    omega
  unfold pruneStep
  rw [checked_bind_ok (Word.add_eq_ok hreach)]
  dsimp only
  split
  · rename_i hfar
    refine .pure ⟨⟨hw.lineHeight_le, fun l hl => hw.numbers_le l
      ((LineMap.dropFirst_sublist _).subset hl), hw.height_le,
      Nat.le_trans (Nat.sub_le _ _) hw.scroll_le⟩, Nat.sub_le _ _, fun hbot => ?_⟩
    rw [hbot] at hfar
    cases hfar.1
  · exact .pure ⟨⟨hw.lineHeight_le, fun l hl => hw.numbers_le l
      ((LineMap.dropLast_sublist _).subset hl), hw.height_le, hw.scroll_le⟩,
      Nat.le_refl _, fun _ => rfl⟩

theorem Roomy.pruneWith_ok (trim : Trim) (fuel : Nat) {v : Window} (count : Nat) (hv : v.Roomy) :
    Returns (pruneWith trim fuel v count) fun r => r.1.Roomy ∧ r.1.scroll ≤ v.scroll ∧
      (trim = .bottom → r.1.scroll = v.scroll) := by
  induction fuel generalizing v count with
  | zero => exact .pure ⟨hv, Nat.le_refl _, fun _ => rfl⟩
  | succ fuel ih =>
    unfold pruneWith
    split
    · refine (hv.pruneStep_ok trim).bind fun v₁ hv₁ => ?_
      obtain ⟨hv₁, hle₁, hbot₁⟩ := hv₁
      refine (ih (count + 1) hv₁).mono fun r hr => ?_
      obtain ⟨hr, hle, hbot⟩ := hr
      exact ⟨hr, Nat.le_trans hle hle₁, fun ht => (hbot ht).trans (hbot₁ ht)⟩
    · exact .pure ⟨hv, Nat.le_refl _, fun _ => rfl⟩

/-- Pruning a roomy window returns, moves the scroll offset up at most, and the
bottom's pruning leaves it. -/
theorem Roomy.prune_ok (hw : w.Roomy) (trim : Trim) :
    Returns (w.prune trim) fun r => r.1.Roomy ∧ r.1.scroll ≤ w.scroll ∧
      (trim = .bottom → r.1.scroll = w.scroll) :=
  Roomy.pruneWith_ok trim _ 0 hw

/-- A scroll by at most `safeSize` lines moves up, or down to the bottom at most. -/
theorem Roomy.scrollLines_ok (hw : w.Roomy) {delta : Int} (hd : delta.natAbs ≤ safeSize) :
    ∃ s, w.scrollLines delta = .ok { w with scroll := s } ∧
      (s ≤ w.scroll ∨ s ≤ w.display.size * w.config.lineHeight) := by
  have hunits : delta.natAbs * w.config.lineHeight ≤ safeSize * safeSize :=
    Nat.mul_le_mul hd hw.lineHeight_le
  have := roomCap_fits
  unfold scrollLines
  rw [checked_bind_ok (Word.mul_eq_ok (by omega))]
  split
  · exact ⟨_, rfl, .inl (Nat.sub_le _ _)⟩
  · have := hw.scroll_le
    rw [checked_bind_ok (Word.add_eq_ok (by omega))]
    rw [checked_bind_ok (maxScroll_of_fits hw.content_fits)]
    exact ⟨_, rfl, .inr (Nat.le_trans (Nat.min_le_right _ _) (Nat.sub_le _ _))⟩

/-- A viewport of at most `safeSize` rows fits, and the view stays within the
content. -/
theorem Roomy.setViewportRows_ok (hw : w.Roomy) {rows : Nat} (hr : rows ≤ safeSize) :
    ∃ s, w.setViewportRows rows =
        .ok { w with viewportHeight := rows * w.config.lineHeight, scroll := s } ∧
      s ≤ w.display.size * w.config.lineHeight := by
  obtain ⟨b, hb, -⟩ := hw.isFollowing_ok
  have hheight : rows * w.config.lineHeight ≤ safeSize * safeSize :=
    Nat.mul_le_mul hr hw.lineHeight_le
  have := roomCap_fits
  unfold setViewportRows
  rw [checked_bind_ok hb]
  rw [checked_bind_ok (Word.mul_eq_ok (by omega))]
  dsimp only
  split
  · rw [scrollToBottom_of_fits (w := { w with viewportHeight := rows * w.config.lineHeight }) hw.content_fits]
    exact ⟨_, rfl, Nat.sub_le _ _⟩
  · rw [clampScroll_of_fits (w := { w with viewportHeight := rows * w.config.lineHeight }) hw.content_fits]
    exact ⟨_, rfl, Nat.le_trans (Nat.min_le_right _ _) (Nat.sub_le _ _)⟩

/-- Splicing in staged lines numbered up to `safeSize` returns when the window is
scrolled at most `scrollCap`: the scroll offset moves down by the height of the
lines the splice adds, and the bottom gives way without moving it. -/
theorem Roomy.commitPrefetch_ok (hw : w.Roomy) (hscroll : w.scroll ≤ scrollCap)
    (hstaged : ∀ p, w.pending = some p → ∀ l ∈ p.lines, l.number ≤ safeSize) :
    Returns w.commitPrefetch fun r => r.1.Roomy ∧ (w.pending = none → r.1 = w) ∧
      ∀ p, w.pending = some p →
        r.1.scroll = w.scroll + (w.display.added p.lines).length * w.config.lineHeight := by
  unfold commitPrefetch
  split
  · rename_i hnone
    exact .pure ⟨hw, fun _ => rfl, fun p hp => by cases hnone.symm.trans hp⟩
  rename_i staged hpending
  -- the spliced display holds lines numbered up to `safeSize`, so what it adds fits
  have hnum : ∀ l ∈ (w.display.insertAll staged.lines).lines, l.number ≤ safeSize := by
    intro l hl
    rcases LineMap.mem_insertAll hl with hl | hl
    · exact hw.numbers_le l hl
    · exact hstaged staged hpending l hl
  have hshift : (w.display.added staged.lines).length * w.config.lineHeight ≤
      (safeSize + 1) * safeSize := by
    have hsize := LineMap.size_le_of_numbers_le hnum
    rw [LineMap.size_insertAll] at hsize
    exact Nat.mul_le_mul (by omega) hw.lineHeight_le
  have hfits := roomCap_fits
  rw [roomCap_eq] at hfits
  dsimp only
  rw [show (staged.lines.map (·.number)).eraseDups.filter (!w.display.contains ·) =
    w.display.added staged.lines from rfl]
  rw [checked_bind_ok (Word.mul_eq_ok (by omega))]
  rw [checked_bind_ok (Word.add_eq_ok (by omega))]
  refine Returns.bind (Roomy.prune_ok ?_ .bottom) fun r ⟨hr, _, hbot⟩ =>
    .pure ⟨hr, fun h => (by cases hpending.symm.trans h), fun p hp => ?_⟩
  · refine ⟨hw.lineHeight_le, hnum, hw.height_le, ?_⟩
    dsimp only
    rw [roomCap_eq]
    omega
  · cases hpending.symm.trans hp
    exact hbot rfl

/-- A flush of buffered lines numbered up to `safeSize` returns, and leaves the
view within the content. -/
theorem Roomy.flush_ok (hw : w.Roomy) (hbuf : ∀ l ∈ w.buffer, l.number ≤ safeSize) :
    Returns w.flush fun r => r.1.Roomy ∧ (w.buffer = [] → r.1 = w) ∧
      (w.buffer ≠ [] → r.1.scroll ≤ r.1.display.size * r.1.config.lineHeight) := by
  unfold flush
  split
  · rename_i hempty
    exact .pure ⟨hw, fun _ => rfl, fun hne => absurd (List.isEmpty_iff.mp hempty) hne⟩
  rename_i hne
  refine hw.isFollowing_ok.bind fun follow _ => ?_
  dsimp only
  -- the batch keeps every displayed number within `safeSize`
  have hw₁ : Roomy { w with
      buffer := []
      display := w.display.insertAll (sortedBatch w.buffer)
      state := if w.state = .empty then .lines else w.state } := by
    refine ⟨hw.lineHeight_le, fun l hl => ?_, hw.height_le, hw.scroll_le⟩
    rcases LineMap.mem_insertAll hl with hl | hl
    · exact hw.numbers_le l hl
    · exact hbuf l (mem_sortedBatch.mp hl)
  have hsettle : ∀ v : Window, v.Roomy →
      Returns (if follow = true then v.scrollToBottom else v.clampScroll) fun v' =>
        v'.Roomy ∧ v'.scroll ≤ v'.display.size * v'.config.lineHeight := by
    intro v hv
    split
    · exact hv.scrollToBottom_ok
    · exact hv.clampScroll_ok
  -- the two choices on following each carry the rest of the flush
  simp only [checked_ite_bind]
  refine Returns.bind (Q := Roomy) ?_ fun v hv =>
    (hv.prune_ok .farthest).bind fun ⟨v₁, n⟩ ⟨hv₁, _⟩ => ?_
  · split
    · exact hw₁.scrollToBottom_ok.mono fun v hv => hv.1
    · exact .pure hw₁
  refine (hsettle v₁ hv₁).bind fun v₂ ⟨hv₂, hscroll⟩ => .pure ⟨hv₂, fun h => ?_, fun _ => hscroll⟩
  exact absurd (List.isEmpty_iff.mpr h) hne

/-- A streamed line numbered up to `safeSize` is taken, and a full buffer flushed;
the scroll offset stays, or the flush leaves the view within the content. -/
theorem Roomy.appendStreamed_ok (hw : w.Roomy) (hbuf : ∀ l ∈ w.buffer, l.number ≤ safeSize)
    (task : Nat) {line : LogLine} (hl : line.number ≤ safeSize) :
    Returns (w.appendStreamed task line) fun r =>
      r.1.scroll = w.scroll ∨ r.1.scroll ≤ r.1.display.size * r.1.config.lineHeight := by
  unfold appendStreamed
  split
  · exact .pure (.inl rfl)
  dsimp only
  split
  · refine Returns.bind (Roomy.flush_ok ?_ ?_) fun r hr => .pure (.inr (hr.2.2 (by simp)))
    · exact ⟨hw.lineHeight_le, hw.numbers_le, hw.height_le, hw.scroll_le⟩
    · intro l' hl'
      rcases List.mem_append.mp hl' with hl' | hl'
      · exact hbuf l' hl'
      · rw [List.mem_singleton.mp hl']
        exact hl
  · exact .pure (.inl rfl)

/-- A primary result whose lines are numbered up to `safeSize` is taken, and the
view ends within the content: at the bottom of a range that reaches the tail,
else at the top. -/
theorem Roomy.applyPrimary_ok (hw : w.Roomy) (ticket : LoadTicket)
    {result : Except LoadError LogChunk}
    (hlines : ∀ chunk, result = .ok chunk → ∀ l ∈ chunk.lines, l.number ≤ safeSize) :
    Returns (w.applyPrimary ticket result) fun r =>
      r.1.Roomy ∧ r.1.scroll ≤ r.1.display.size * r.1.config.lineHeight := by
  -- a failure clears the display and scrolls to the top
  have hcleared : ∀ e : LoadError, Roomy { w with
      loaded := none
      moreAbove := false
      display := LineMap.empty
      scroll := 0
      state := .error e.message } := fun _ =>
    hw.of_display (fun _ hl => by cases hl) rfl (Nat.le_refl _) (Nat.zero_le _)
  unfold applyPrimary
  cases result with
  | error e => exact .pure ⟨hcleared e, Nat.zero_le _⟩
  | ok chunk =>
  dsimp only
  by_cases hempty : chunk.lines.isEmpty = true ∧ ticket.kind = .range
  · rw [if_pos hempty]
    exact .pure ⟨hcleared _, Nat.zero_le _⟩
  rw [if_neg hempty]
  dsimp only
  rw [checked_ite_bind]
  have hkept : ∀ l ∈ w.primaryLines ticket.kind chunk.lines, l.number ≤ safeSize :=
    fun l hl => hlines chunk rfl l ((primaryLines_sublist _ _).subset hl)
  -- the lines carried past a tail are displayed lines, so the new display is numbered
  -- up to `safeSize`
  refine Returns.bind (Q := fun p => ∀ l ∈ p.1.lines, l.number ≤ safeSize) ?_
    fun ⟨streamed, buffer, newer⟩ hstreamed => ?_
  · split
    · have hlast : ∀ last ∈ (w.primaryLines ticket.kind chunk.lines).getLast?.map (·.number),
          last < wordMax := by
        intro last hlast
        obtain ⟨l, hl, rfl⟩ := Option.map_eq_some_iff.mp hlast
        have := hkept l (List.mem_of_getLast? hl)
        have := safeSize_lt_wordMax
        omega
      obtain ⟨⟨streamed, buffer, newer⟩, hpast⟩ := streamedPast_ok w _ _ hlast
      exact .of_eq hpast fun l hl => hw.numbers_le l ((streamedPast_eq hpast).1.subset hl)
    · exact .pure fun l hl => by simp at hl
  have hdisp : ∀ l ∈ ((LineMap.ofList (w.primaryLines ticket.kind chunk.lines)).insertAll
      streamed.lines).lines, l.number ≤ safeSize := by
    intro l hl
    rcases LineMap.mem_insertAll hl with hl | hl
    · exact hkept l (LineMap.mem_ofList hl)
    · exact hstreamed l hl
  dsimp only
  split
  · -- at the tail the view goes to the bottom, before and after pruning; else to the top
    split
    · refine Returns.bind (Roomy.scrollToBottom_ok ?_) fun v ⟨hv, _⟩ =>
        (hv.prune_ok .farthest).bind fun ⟨v₁, n⟩ ⟨hv₁, _⟩ => ?_
      · exact hw.of_display hdisp rfl (Nat.le_refl _) (Nat.le_refl _)
      · exact hv₁.scrollToBottom_ok.bind fun v₂ hv₂ => .pure hv₂
    · refine Returns.bind (Q := fun v => v.Roomy ∧ v.scroll = 0) (.pure ⟨?_, rfl⟩) fun v ⟨hv, hv0⟩ =>
        (hv.prune_ok .farthest).bind fun ⟨v₁, n⟩ ⟨hv₁, hle, _⟩ => ?_
      · exact hw.of_display hdisp rfl (Nat.le_refl _) (Nat.zero_le _)
      · exact .pure ⟨hv₁, Nat.le_trans hle (by rw [hv0]; exact Nat.zero_le _)⟩
  · exact .pure ⟨hw.of_display hdisp rfl (Nat.le_refl _) (Nat.zero_le _), Nat.zero_le _⟩

/-- A prefetch result whose lines are numbered up to `safeSize` is taken, with
the batch at most `safeSize` doubled, and spliced in at once from a window
scrolled at most `scrollCap`. -/
theorem Roomy.applyPrefetch_ok (hw : w.Roomy) (hscroll : w.scroll ≤ scrollCap)
    (hbatch : w.batchSize ≤ safeSize) {result : Except LoadError LogChunk}
    (hlines : ∀ chunk, result = .ok chunk → ∀ l ∈ chunk.lines, l.number ≤ safeSize) :
    Returns (w.applyPrefetch result) fun _ => True := by
  unfold applyPrefetch
  cases result with
  | error e => exact .pure trivial
  | ok chunk =>
  dsimp only
  split
  · have hdouble : w.batchSize * 2 < wordBound := by
      have := safeSize_lt_wordMax
      unfold wordMax at this
      omega
    rw [checked_bind_ok (Word.mul_eq_ok hdouble)]
    split
    · refine Returns.bind (Roomy.commitPrefetch_ok ?_ hscroll ?_) fun _ _ => .pure trivial
      · exact hw.of_display hw.numbers_le rfl (Nat.le_refl _) (Nat.le_refl _)
      · intro p hp l hl
        cases hp
        exact hlines chunk rfl l (List.mem_filter.mp hl).1
    · exact .pure trivial
  · exact .pure trivial

/-- A result handed back from a roomy window is taken: stale, as a prefetch, or as
a primary result. -/
theorem Roomy.complete_ok (hw : w.Roomy) (hscroll : w.scroll ≤ scrollCap)
    (hbatch : w.batchSize ≤ safeSize) (ticket : LoadTicket) {result : Except LoadError LogChunk}
    (hlines : ∀ chunk, result = .ok chunk → ∀ l ∈ chunk.lines, l.number ≤ safeSize) :
    Returns (w.complete ticket result) fun _ => True := by
  unfold complete
  split
  · exact .pure trivial
  have hstop : (if w.inFlight = some ticket then { w with inFlight := none } else w) =
      { w with inFlight := if w.inFlight = some ticket then none else w.inFlight } := by
    split <;> rfl
  dsimp only
  rw [hstop]
  have hw₀ : Roomy { w with inFlight := if w.inFlight = some ticket then none else w.inFlight } :=
    hw.of_display hw.numbers_le rfl (Nat.le_refl _) (Nat.le_refl _)
  cases ticket.kind with
  | prefetch => exact Roomy.applyPrefetch_ok hw₀ hscroll hbatch hlines
  | tail => exact (Roomy.applyPrimary_ok hw₀ ticket hlines).mono fun _ _ => trivial
  | range => exact (Roomy.applyPrimary_ok hw₀ ticket hlines).mono fun _ _ => trivial

/-- Reacting to the scroll position returns from a window scrolled at most
`scrollCap` whose staged lines are numbered up to `safeSize`. -/
theorem Roomy.onScroll_ok (hw : w.Roomy) (hscroll : w.scroll ≤ scrollCap)
    (hstaged : ∀ p, w.pending = some p → ∀ l ∈ p.lines, l.number ≤ safeSize) :
    Returns w.onScroll fun _ => True := by
  unfold onScroll contentHeight
  rw [checked_bind_ok (Word.mul_eq_ok hw.content_fits)]
  obtain ⟨⟨w₁, t?⟩, hp⟩ : ∃ p, w.prefetchAbove w.scroll w.viewportHeight = p := ⟨_, rfl⟩
  -- a prefetch only records the ticket in flight
  have hw₁ : w₁.Roomy ∧ w₁.scroll = w.scroll ∧ w₁.pending = w.pending := by
    rcases prefetchAbove_eq hp with ⟨-, rfl⟩ | ⟨_, _, _, _, _, _, _, _, _, _, rfl⟩
    · exact ⟨hw, rfl, rfl⟩
    · exact ⟨hw.of_display hw.numbers_le rfl (Nat.le_refl _) (Nat.le_refl _), rfl, rfl⟩
  obtain ⟨hroom, hs, hpend⟩ := hw₁
  dsimp only
  rw [hp]
  dsimp only
  split
  · refine Returns.bind (Roomy.commitPrefetch_ok hroom (hs ▸ hscroll) ?_) fun _ _ => .pure trivial
    rw [hpend]
    exact hstaged
  · exact .pure trivial

end Window

/-- The arguments of an operation are within `safeSize`: the rows of a viewport,
the lines of a scroll, a streamed line's number, and the numbers of a result's
lines. -/
def WindowOp.Fits : WindowOp → Prop
  | .setRows rows => rows ≤ safeSize
  | .scroll delta => delta.natAbs ≤ safeSize
  | .append _ line => line.number ≤ safeSize
  | .complete _ (.ok chunk) => ∀ l ∈ chunk.lines, l.number ≤ safeSize
  | _ => True

instance (op : WindowOp) : Decidable op.Fits :=
  match op with
  | .setRows rows => inferInstanceAs (Decidable (rows ≤ safeSize))
  | .scroll delta => inferInstanceAs (Decidable (delta.natAbs ≤ safeSize))
  | .append _ line => inferInstanceAs (Decidable (line.number ≤ safeSize))
  | .complete _ (.ok chunk) =>
    inferInstanceAs (Decidable (∀ l ∈ chunk.lines, l.number ≤ safeSize))
  | .complete _ (.error _) | .openTask _ | .reload | .close | .loadRange _ _ | .flush
  | .prefetch _ _ | .commit | .onScroll | .toTop | .toBottom => inferInstanceAs (Decidable True)

namespace Window

variable {w : Window}

/-- From a roomy window scrolled at most `scrollCap`, with its batch, buffered
and staged lines within `safeSize`, every operation whose arguments fit returns. -/
theorem Roomy.perform_ok (hw : w.Roomy) (hscroll : w.scroll ≤ scrollCap)
    (hbatch : w.batchSize ≤ safeSize) (hbuf : ∀ l ∈ w.buffer, l.number ≤ safeSize)
    (hstaged : ∀ p, w.pending = some p → ∀ l ∈ p.lines, l.number ≤ safeSize)
    {op : WindowOp} (hop : op.Fits) : Returns (w.perform op) fun _ => True := by
  cases op with
  | openTask task => exact .pure trivial
  | reload => exact .pure trivial
  | close => exact .pure trivial
  | loadRange first last =>
    dsimp only [perform]
    split <;> exact .pure trivial
  | complete ticket result =>
    have hlines : ∀ chunk, result = .ok chunk → ∀ l ∈ chunk.lines, l.number ≤ safeSize := by
      rintro chunk rfl
      exact hop
    exact Returns.bind (hw.complete_ok hscroll hbatch ticket hlines) fun _ _ => .pure trivial
  | append task line =>
    exact Returns.bind (hw.appendStreamed_ok hbuf task hop) fun _ _ => .pure trivial
  | flush => exact Returns.bind (hw.flush_ok hbuf) fun _ _ => .pure trivial
  | prefetch position height => exact .pure trivial
  | commit => exact Returns.bind (hw.commitPrefetch_ok hscroll hstaged) fun _ _ => .pure trivial
  | onScroll => exact hw.onScroll_ok hscroll hstaged
  | setRows rows =>
    obtain ⟨s, hs, -⟩ := hw.setViewportRows_ok hop
    exact Returns.bind (Q := fun _ => True) (.of_eq hs trivial) fun _ _ => .pure trivial
  | scroll delta =>
    obtain ⟨s, hs, -⟩ := hw.scrollLines_ok hop
    exact Returns.bind (Q := fun _ => True) (.of_eq hs trivial) fun _ _ => .pure trivial
  | toTop => exact .pure trivial
  | toBottom => exact Returns.bind hw.scrollToBottom_ok fun _ _ => .pure trivial

end Window

end TaskConsole
