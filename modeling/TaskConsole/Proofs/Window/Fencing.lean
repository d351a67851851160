import TaskConsole.Proofs.Window.Tickets

/-! Generation fencing: a ticket handed out before a reset or range jump is stale ever
after, and every line held was delivered since the last reset
(`fenced_tickets_stale_and_lines_delivered`). -/

namespace TaskConsole

namespace WindowOp

/-- Opening, reloading and closing start the window afresh. -/
def Resets : WindowOp → Prop
  | .openTask _ | .reload | .close => True
  | _ => False

/-- An operation on `w` after which no ticket handed out before it is current:
one that starts the window afresh, or a range jump that hands out a ticket. -/
def Fences (w : Window) (op : WindowOp) : Prop :=
  op.Resets ∨ ∃ first last p, op = .loadRange first last ∧ w.loadRange first last = .ok p ∧
    p.2.isSome

/-- The lines `op` delivers to `w`: the lines of a result handed back for a
current ticket of the open task, or a line streamed for the open task. -/
def Delivers (op : WindowOp) (w : Window) (l : LogLine) : Prop :=
  (∃ t chunk, op = .complete t (.ok chunk) ∧ t.generation = w.generation ∧
      w.task = some t.task ∧ l ∈ chunk.lines) ∨
    ∃ task, op = .append task l ∧ w.task = some task

end WindowOp

/-- Lines the operations `ops` delivered for `task` from generation `g` on: lines
of a result handed back for a ticket of `task` of generation `g` or later, and
lines streamed for `task`. -/
def Delivered (ops : List WindowOp) (task g : Nat) (l : LogLine) : Prop :=
  (∃ t chunk, WindowOp.complete t (.ok chunk) ∈ ops ∧ t.task = task ∧ g ≤ t.generation ∧
      l ∈ chunk.lines) ∨
    WindowOp.append task l ∈ ops

theorem Delivered.append {ops : List WindowOp} {task g : Nat} {l : LogLine}
    (h : Delivered ops task g l) (ops' : List WindowOp) : Delivered (ops ++ ops') task g l := by
  rcases h with ⟨t, chunk, hmem, htask, hg, hl⟩ | hmem
  · exact .inl ⟨t, chunk, List.mem_append_left _ hmem, htask, hg, hl⟩
  · exact .inr (List.mem_append_left _ hmem)

namespace Window

variable {w w' : Window} {l : LogLine}

/-- The lines a window holds: shown, buffered or staged. -/
def Holds (w : Window) (l : LogLine) : Prop :=
  l ∈ w.display.lines ∨ l ∈ w.buffer ∨ ∃ p, w.pending = some p ∧ l ∈ p.lines

theorem not_holds_reset (w : Window) (l : LogLine) : ¬ w.reset.Holds l := by
  rintro (h | h | ⟨p, hp, -⟩)
  · cases h
  · cases h
  · cases hp

theorem not_holds_openTask (w : Window) (task : Nat) (l : LogLine) :
    ¬ (w.openTask task).1.Holds l :=
  not_holds_reset w l

theorem holds_prefetchAbove {position height : Nat} {t? : Option LoadTicket}
    (h : w.prefetchAbove position height = (w', t?)) (hl : w'.Holds l) : w.Holds l := by
  rcases prefetchAbove_eq h with ⟨-, rfl⟩ | ⟨_, _, -, -, -, -, -, -, -, -, rfl⟩
  · exact hl
  · exact hl

/-- Splicing moves staged lines into the display and drops some. -/
theorem holds_commitPrefetch {b : Bool} (h : w.commitPrefetch = .ok (w', b)) (hl : w'.Holds l) :
    w.Holds l := by
  rcases commitPrefetch_eq h with ⟨-, rfl, -⟩ | ⟨staged, d, s, hpending, -, rfl, hsub, -⟩
  · exact hl
  · rcases hl with hl | hl | ⟨p, hp, -⟩
    · rcases LineMap.mem_insertAll (hsub.subset hl) with hl | hl
      · exact .inl hl
      · exact .inr (.inr ⟨staged, hpending, hl⟩)
    · exact .inr (.inl hl)
    · cases hp

/-- A flush moves buffered lines into the display and drops some. -/
theorem holds_flush {r : FlushReport} (h : w.flush = .ok (w', r)) (hl : w'.Holds l) :
    w.Holds l := by
  rcases flush_eq h with ⟨-, rfl⟩ | ⟨d, s, -, rfl, hsub, -⟩
  · exact hl
  · rcases hl with hl | hl | hl
    · rcases LineMap.mem_insertAll (hsub.subset hl) with hl | hl
      · exact .inl hl
      · exact .inr (.inl (mem_sortedBatch.mp hl))
    · cases hl
    · exact .inr (.inr hl)

theorem holds_onScroll {t? : Option LoadTicket} (h : w.onScroll = .ok (w', t?))
    (hl : w'.Holds l) : w.Holds l := by
  obtain ⟨w₁, hp, hcommit⟩ := onScroll_eq h
  rcases hcommit with ⟨-, -, b, hc⟩ | ⟨-, rfl⟩
  · exact holds_prefetchAbove hp (holds_commitPrefetch hc hl)
  · exact holds_prefetchAbove hp hl

/-- A streamed line is the one new line an append brings. -/
theorem holds_appendStreamed {task : Nat} {x : LogLine} {b : Bool}
    (h : w.appendStreamed task x = .ok (w', b)) (hl : w'.Holds l) :
    w.Holds l ∨ l = x ∧ w.task = some task := by
  rcases appendStreamed_eq h with ⟨-, rfl⟩ | ⟨htask, -, first, w₁, -, hw₁, hw'⟩
  · exact .inl hl
  · have hl₁ : w₁.Holds l := by
      rcases hw' with ⟨-, rfl⟩ | ⟨-, r, hflush⟩
      · exact hl
      · exact holds_flush hflush hl
    subst hw₁
    rcases hl₁ with hl | hl | hl
    · exact .inl (.inl hl)
    · rcases List.mem_append.mp hl with hl | hl
      · exact .inl (.inr (.inl hl))
      · exact .inr ⟨List.mem_singleton.mp hl, htask⟩
    · exact .inl (.inr (.inr hl))

/-- A primary result brings lines of the result; the rest it keeps were held. -/
theorem holds_applyPrimary {ticket : LoadTicket} {result : Except LoadError LogChunk}
    {o : LoadOutcome} (h : w.applyPrimary ticket result = .ok (w', o)) (hl : w'.Holds l) :
    w.Holds l ∨ ∃ chunk, result = .ok chunk ∧ l ∈ chunk.lines := by
  rcases applyPrimary_cases h with ⟨e, -, rfl⟩ | ⟨chunk, rfl, hne⟩
  · rcases hl with hl | hl | hl
    · cases hl
    · exact .inl (.inr (.inl hl))
    · exact .inl (.inr (.inr hl))
  obtain ⟨lines, hlines⟩ : ∃ lines, lines = w.primaryLines ticket.kind chunk.lines := ⟨_, rfl⟩
  obtain ⟨-, streamed, buffer, newer, hsrc, hcase⟩ := applyPrimary_applied hlines hne h
  obtain ⟨hstreamed, hbuffer, -⟩ := streamed_sources hsrc
  -- the new display is made of lines taken from the result and streamed lines
  have hbase : ∀ y ∈ ((LineMap.ofList lines).insertAll streamed.lines).lines,
      w.Holds y ∨ y ∈ chunk.lines := by
    intro y hy
    rcases LineMap.mem_insertAll hy with hy | hy
    · have hy' := LineMap.mem_ofList hy
      rw [hlines] at hy'
      exact .inr ((primaryLines_sublist _ _).subset hy')
    · exact .inl (.inl (hstreamed.subset hy))
  suffices hl' : w.Holds l ∨ l ∈ chunk.lines by
    rcases hl' with hl' | hl'
    · exact .inl hl'
    · exact .inr ⟨chunk, rfl, hl'⟩
  rcases hcase with ⟨-, rfl⟩ | ⟨lo, hi, d, s, -, -, rfl, hdsub, -⟩
  · rcases hl with hl | hl | hl
    · exact hbase l hl
    · exact .inl (.inr (.inl (hbuffer.subset hl)))
    · exact .inl (.inr (.inr hl))
  · rcases hl with hl | hl | hl
    · exact hbase l (hdsub.subset hl)
    · exact .inl (.inr (.inl (hbuffer.subset hl)))
    · exact .inl (.inr (.inr hl))

/-- A prefetch result stages lines of the result. -/
theorem holds_applyPrefetch {result : Except LoadError LogChunk} {o : LoadOutcome}
    (h : w.applyPrefetch result = .ok (w', o)) (hl : w'.Holds l) :
    w.Holds l ∨ ∃ chunk, result = .ok chunk ∧ l ∈ chunk.lines := by
  rcases applyPrefetch_eq h with ⟨e, -, -, rfl⟩ | ⟨chunk, rfl, -, hcase⟩
  · exact .inl hl
  rcases hcase with ⟨-, rfl⟩ | ⟨lo, hi, w₁, -, -, hw₁, hw'⟩
  · exact .inl hl
  · have hl₁ : w₁.Holds l := by
      rcases hw' with ⟨-, b, hcommit⟩ | ⟨-, rfl⟩
      · exact holds_commitPrefetch hcommit hl
      · exact hl
    subst hw₁
    rcases hl₁ with hl | hl | ⟨p, hp, hlp⟩
    · exact .inl (.inl hl)
    · exact .inl (.inr (.inl hl))
    · cases hp
      exact .inr ⟨chunk, rfl, (List.mem_filter.mp hlp).1⟩

/-- Only a current ticket of the open task brings lines, and they are lines of
its result. -/
theorem holds_complete {ticket : LoadTicket} {result : Except LoadError LogChunk}
    {o : LoadOutcome} (h : w.complete ticket result = .ok (w', o)) (hl : w'.Holds l) :
    w.Holds l ∨ ticket.generation = w.generation ∧ w.task = some ticket.task ∧
      ∃ chunk, result = .ok chunk ∧ l ∈ chunk.lines := by
  rcases complete_eq h with ⟨-, rfl, -⟩ | ⟨hgen, htask, ⟨-, hp⟩ | ⟨-, hp⟩⟩
  · exact .inl hl
  · rcases holds_applyPrefetch hp hl with hl | hnew
    · exact .inl hl
    · exact .inr ⟨hgen, htask, hnew⟩
  · rcases holds_applyPrimary hp hl with hl | hnew
    · exact .inl hl
    · exact .inr ⟨hgen, htask, hnew⟩

end Window

namespace Session

variable {caller : Caller} {s s' : Session} {op : WindowOp}

/-- The generation never goes back. -/
theorem Step.generation_le (h : Step caller s op s') :
    s.window.generation ≤ s'.window.generation := by
  rcases h.tickets with ⟨-, -, hgen, -⟩ | ⟨_, -, -, -, -, -, htickets⟩ |
    ⟨_, -, -, -, -, htickets⟩ | ⟨htickets, -⟩
  · omega
  · exact Nat.le_of_eq (Window.tickets_eq_iff.mp htickets).1.symm
  · exact Nat.le_of_eq (Window.tickets_eq_iff.mp htickets).1.symm
  · exact Nat.le_of_eq (congrArg (·.1) htickets).symm

theorem Run.generation_le {ops : List WindowOp} (h : Run caller s ops s') :
    s.window.generation ≤ s'.window.generation :=
  h.induction (fun v => s.window.generation ≤ v.window.generation)
    (fun _ _ _ hle hs => Nat.le_trans hle hs.generation_le) (Nat.le_refl _)

/-- After a fencing step every ticket held before it is of an older generation. -/
theorem Step.fences (hd : TicketsDated s) (h : Step caller s op s') (hop : op.Fences s.window) :
    ∀ t ∈ s.held, t.generation < s'.window.generation := by
  intro t ht
  cases h with
  | @mk w held _ w' issued hallow hperf =>
  have hle : t.generation ≤ w.generation := (hd t ht).1
  have hstep := Window.perform_eq_ok hperf
  cases op with
  | openTask task =>
    obtain ⟨rfl, -⟩ := hstep
    show t.generation < w.generation + 1
    omega
  | reload =>
    cases htask : w.task with
    | none =>
      -- nothing is open: every held ticket is already older
      rw [Window.reload_of_none htask] at hstep
      cases hstep
      exact (hd t ht).2 htask
    | some task =>
      rw [Window.reload_of_task htask] at hstep
      cases hstep
      show t.generation < w.generation + 1
      omega
  | close =>
    obtain ⟨rfl, -⟩ := hstep
    show t.generation < w.generation + 1
    omega
  | loadRange first last =>
    rcases hop with hres | ⟨a, b, p, hab, hp, hsome⟩
    · exact hres.elim
    · cases hab
      rcases hstep with hr | ⟨⟨e, he⟩, -, -⟩
      · rcases Window.loadRange_eq_ok hr with hdrop | ⟨task, -, -, hnew⟩
        · -- a jump that hands out no ticket does not fence
          cases hdrop
          rw [hr] at hp
          cases hp
          cases hsome
        · cases hnew
          show t.generation < w.generation + 1
          omega
      · rw [he] at hp
        cases hp
  | _ => exact hop.elim (fun h => h.elim) fun ⟨_, _, _, h, _⟩ => nomatch h

/-- One step either starts afresh, holding nothing, or keeps the task, does not go back
a generation, and holds only lines held before or delivered by it. -/
theorem Step.holds (h : Step caller s op s') :
    op.Resets ∧ ((∀ l, ¬ s'.window.Holds l) ∨ s'.window = s.window ∧ s.window.task = none) ∨
      ¬ op.Resets ∧ s'.window.task = s.window.task ∧
        s.window.generation ≤ s'.window.generation ∧
        ∀ l, s'.window.Holds l → s.window.Holds l ∨ op.Delivers s.window l := by
  have hgen := h.generation_le
  cases h with
  | @mk w held _ w' issued hallow hperf =>
  have hstep := Window.perform_eq_ok hperf
  -- a step that brings no line and keeps the task
  have hquiet : ∀ {v : Window}, v.task = w.task → (∀ l, v.Holds l → w.Holds l) →
      ¬ op.Resets → w.generation ≤ v.generation → ¬ op.Resets ∧ v.task = w.task ∧
        w.generation ≤ v.generation ∧ ∀ l, v.Holds l → w.Holds l ∨ op.Delivers w l :=
    fun htask hholds hres hle => ⟨hres, htask, hle, fun l hl => .inl (hholds l hl)⟩
  cases op with
  | openTask task =>
    obtain ⟨rfl, -⟩ := hstep
    exact .inl ⟨trivial, .inl (Window.not_holds_openTask w task)⟩
  | reload =>
    cases htask : w.task with
    | none =>
      rw [Window.reload_of_none htask] at hstep
      cases hstep
      exact .inl ⟨trivial, .inr ⟨rfl, rfl⟩⟩
    | some task =>
      rw [Window.reload_of_task htask] at hstep
      cases hstep
      exact .inl ⟨trivial, .inl (Window.not_holds_openTask w task)⟩
  | close =>
    obtain ⟨rfl, -⟩ := hstep
    exact .inl ⟨trivial, .inl (Window.not_holds_reset w)⟩
  | loadRange first last =>
    refine .inr ⟨id, ?_, hgen, fun l hl => .inl ?_⟩
    · rcases hstep with hr | ⟨-, rfl, -⟩
      · rcases Window.loadRange_eq_ok hr with hp | ⟨task, -, -, hp⟩ <;> cases hp <;> rfl
      · rfl
    · rcases hstep with hr | ⟨-, rfl, -⟩
      · rcases Window.loadRange_eq_ok hr with hp | ⟨task, -, -, hp⟩ <;> cases hp
        · exact hl
        · rcases hl with hl | hl | ⟨p, hp, -⟩
          · exact .inl hl
          · exact .inr (.inl hl)
          · cases hp
      · exact hl
  | complete t r =>
    obtain ⟨-, o, hc⟩ := hstep
    refine .inr ⟨id, ?_, hgen, fun l hl => ?_⟩
    · rcases Window.complete_tickets hc with ⟨-, rfl, -⟩ | ⟨-, -, -, htickets⟩
      · rfl
      · exact (Window.tickets_eq_iff.mp htickets).2.1
    · rcases Window.holds_complete hc hl with hl | ⟨hg, htask, chunk, rfl, hlc⟩
      · exact .inl hl
      · exact .inr (.inl ⟨t, chunk, rfl, hg, htask, hlc⟩)
  | append task x =>
    obtain ⟨-, b, ha⟩ := hstep
    refine .inr ⟨id, congrArg (·.2.1) (Window.appendStreamed_tickets ha), hgen, fun l hl => ?_⟩
    rcases Window.holds_appendStreamed ha hl with hl | ⟨rfl, htask⟩
    · exact .inl hl
    · exact .inr (.inr ⟨task, rfl, htask⟩)
  | flush =>
    obtain ⟨-, r, hf⟩ := hstep
    exact .inr (hquiet (congrArg (·.2.1) (Window.flush_tickets hf))
      (fun _ => Window.holds_flush hf) id hgen)
  | prefetch position height =>
    rcases Window.prefetchAbove_eq hstep with ⟨-, rfl⟩ | ⟨_, _, -, -, -, -, -, -, -, -, rfl⟩
    · exact .inr (hquiet rfl (fun _ hl => hl) id hgen)
    · exact .inr (hquiet rfl (fun _ hl => hl) id hgen)
  | commit =>
    obtain ⟨-, b, hc⟩ := hstep
    exact .inr (hquiet (congrArg (·.2.1) (Window.commitPrefetch_tickets hc))
      (fun _ => Window.holds_commitPrefetch hc) id hgen)
  | onScroll =>
    refine .inr ⟨id, ?_, hgen, fun l hl => .inl (Window.holds_onScroll hstep hl)⟩
    obtain ⟨w₁, hp, hcommit⟩ := Window.onScroll_eq hstep
    have htask₁ : w₁.task = w.task := by
      rcases Window.prefetchAbove_eq hp with ⟨-, rfl⟩ | ⟨_, _, -, -, -, -, -, -, -, -, rfl⟩ <;> rfl
    rcases hcommit with ⟨-, -, b, hc⟩ | ⟨-, rfl⟩
    · exact (congrArg (·.2.1) (Window.commitPrefetch_tickets hc)).trans htask₁
    · exact htask₁
  | setRows _ | scroll _ | toTop | toBottom =>
    obtain ⟨-, sc, v, rfl⟩ := hstep
    exact .inr (hquiet rfl (fun _ hl => hl) id hgen)

/-- A window without a task holds no lines. -/
theorem Run.not_holds_of_closed {c : WindowConfig} {ops : List WindowOp}
    (h : Run caller (start c) ops s) : s.window.task = none → ∀ l, ¬ s.window.Holds l :=
  h.induction (fun v => v.window.task = none → ∀ l, ¬ v.window.Holds l)
    (fun v op v' hv hs => by
      intro hnone l hl
      rcases hs.holds with ⟨-, hempty | ⟨hsame, -⟩⟩ | ⟨-, htask, -, hholds⟩
      · exact hempty l hl
      · rw [hsame] at hnone hl
        exact hv hnone l hl
      · rcases hholds l hl with hl | hdel
        · exact hv (htask ▸ hnone) l hl
        · -- a delivery needs an open task
          rcases hdel with ⟨_, _, -, -, hopen, -⟩ | ⟨_, -, hopen⟩
          · rw [← htask, hnone] at hopen
            cases hopen
          · rw [← htask, hnone] at hopen
            cases hopen)
    (fun _ => fun l hl => by
      rcases hl with hl | hl | ⟨p, hp, -⟩
      · cases hl
      · cases hl
      · cases hp)

/-- Since the window last started afresh, at generation `g`, after the
operations `post`: every line it holds was delivered by `post` for the open
task from generation `g` on. -/
def Traced (post : List WindowOp) (g : Nat) (s : Session) : Prop :=
  g ≤ s.window.generation ∧
    ∀ l, s.window.Holds l → ∃ task, s.window.task = some task ∧ Delivered post task g l

theorem Traced.step {post : List WindowOp} {g : Nat} (ht : Traced post g s)
    (h : Step caller s op s') (hop : ¬ op.Resets) : Traced (post ++ [op]) g s' := by
  obtain ⟨hg, htraced⟩ := ht
  rcases h.holds with ⟨hres, -⟩ | ⟨-, htask, hgen, hholds⟩
  · exact absurd hres hop
  refine ⟨Nat.le_trans hg hgen, fun l hl => ?_⟩
  rcases hholds l hl with hl | hdel
  · obtain ⟨task, htask', hdel⟩ := htraced l hl
    exact ⟨task, htask.trans htask', hdel.append [op]⟩
  · -- the step itself delivered the line, for the open task
    rcases hdel with ⟨t, chunk, rfl, htg, hopen, hlc⟩ | ⟨task, rfl, hopen⟩
    · exact ⟨t.task, htask.trans hopen,
        .inl ⟨t, chunk, List.mem_append_right _ (List.mem_singleton_self _), rfl,
          htg ▸ hg, hlc⟩⟩
    · exact ⟨task, htask.trans hopen, .inr (List.mem_append_right _ (List.mem_singleton_self _))⟩

/-- Right after the window starts afresh it holds nothing to trace. -/
theorem traced_of_resets {c : WindowConfig} {pre : List WindowOp} {s₀ : Session}
    (hpre : Run caller (start c) pre s₀) (h : Step caller s₀ op s) (hop : op.Resets) :
    Traced [] s.window.generation s := by
  refine ⟨Nat.le_refl _, fun l hl => ?_⟩
  rcases h.holds with ⟨-, hempty | ⟨hsame, hnone⟩⟩ | ⟨hres, -⟩
  · exact absurd hl (hempty l)
  · rw [hsame] at hl
    exact absurd hl (hpre.not_holds_of_closed hnone l)
  · exact absurd hop hres

theorem Run.traced {post : List WindowOp} {g : Nat} {s₁ : Session}
    (h : Run caller s₁ post s) (h₀ : Traced [] g s₁) (hno : ∀ op ∈ post, ¬ op.Resets) :
    Traced post g s := by
  induction h with
  | nil => exact h₀
  | snoc _ hs ih =>
    exact (ih fun op hop => hno op (List.mem_append_left _ hop)).step hs
      (hno _ (List.mem_append_right _ (List.mem_singleton_self _)))

/-- Tickets handed out before a reset or a ticketed range jump are stale ever after,
and every line held was delivered since the last reset, for the open task. -/
theorem fenced_tickets_stale_and_lines_delivered {c : WindowConfig}
    {pre post : List WindowOp} {s₀ s₁ : Session}
    (hpre : Run caller (start c) pre s₀) (hop : Step caller s₀ op s₁)
    (hpost : Run caller s₁ post s) :
    (op.Fences s₀.window → ∀ t ∈ s₀.held, ∀ r, s.window.complete t r = .ok (s.window, .stale)) ∧
      (op.Resets → (∀ op' ∈ post, ¬ op'.Resets) → ∀ l, s.window.Holds l →
        ∃ task, s.window.task = some task ∧ Delivered post task s₁.window.generation l) := by
  refine ⟨fun hfence t ht r => ?_, fun hres hno l hl => (hpost.traced
    (traced_of_resets hpre hop hres) hno).2 l hl⟩
  -- the ticket is older than the generation after the fence, which never goes back
  have hold : t.generation < s.window.generation :=
    Nat.lt_of_lt_of_le (hop.fences hpre.ticketsDated hfence t ht) hpost.generation_le
  exact Window.complete_of_stale (.inl (Nat.ne_of_lt hold))

/-- A task opened, then another: the first tail is stale, and the line streamed
for the second task was delivered after it opened. -/
theorem fenced_tickets_stale_and_lines_delivered_reopen :
    Run Caller.free (start {}) [.openTask 7]
        ⟨((Window.new {}).openTask 7).1, [⟨1, 7, .tail, 0, 0⟩]⟩ ∧
      Step Caller.free ⟨((Window.new {}).openTask 7).1, [⟨1, 7, .tail, 0, 0⟩]⟩ (.openTask 8)
        ⟨(((Window.new {}).openTask 7).1.openTask 8).1,
          [⟨1, 7, .tail, 0, 0⟩, ⟨2, 8, .tail, 0, 0⟩]⟩ ∧
      Run Caller.free ⟨(((Window.new {}).openTask 7).1.openTask 8).1,
          [⟨1, 7, .tail, 0, 0⟩, ⟨2, 8, .tail, 0, 0⟩]⟩ [.append 8 ⟨1, "x"⟩]
        ⟨{ (((Window.new {}).openTask 7).1.openTask 8).1 with
            totalLines := 1
            loaded := some ⟨1, 1⟩
            buffer := [⟨1, "x"⟩] }, [⟨1, 7, .tail, 0, 0⟩, ⟨2, 8, .tail, 0, 0⟩]⟩ ∧
      ((WindowOp.openTask 8).Fences ((Window.new {}).openTask 7).1 →
        ∀ t ∈ [(⟨1, 7, .tail, 0, 0⟩ : LoadTicket)], ∀ r,
          Window.complete { (((Window.new {}).openTask 7).1.openTask 8).1 with
              totalLines := 1
              loaded := some ⟨1, 1⟩
              buffer := [⟨1, "x"⟩] } t r =
            .ok ({ (((Window.new {}).openTask 7).1.openTask 8).1 with
              totalLines := 1
              loaded := some ⟨1, 1⟩
              buffer := [⟨1, "x"⟩] }, .stale)) ∧
      ((WindowOp.openTask 8).Resets →
        (∀ op' ∈ [WindowOp.append 8 ⟨1, "x"⟩], ¬ op'.Resets) → ∀ l,
          Window.Holds { (((Window.new {}).openTask 7).1.openTask 8).1 with
              totalLines := 1
              loaded := some ⟨1, 1⟩
              buffer := [⟨1, "x"⟩] } l →
            ∃ task, some 8 = some task ∧ Delivered [.append 8 ⟨1, "x"⟩] task 2 l) :=
  have hpre : Run Caller.free (start {}) [.openTask 7]
      ⟨((Window.new {}).openTask 7).1, [⟨1, 7, .tail, 0, 0⟩]⟩ :=
    Run.nil.snoc (Step.of_perform (by trivial) rfl rfl)
  have hop : Step Caller.free ⟨((Window.new {}).openTask 7).1, [⟨1, 7, .tail, 0, 0⟩]⟩
      (.openTask 8) ⟨(((Window.new {}).openTask 7).1.openTask 8).1,
        [⟨1, 7, .tail, 0, 0⟩, ⟨2, 8, .tail, 0, 0⟩]⟩ :=
    Step.of_perform (by trivial) rfl rfl
  have hpost : Run Caller.free ⟨(((Window.new {}).openTask 7).1.openTask 8).1,
        [⟨1, 7, .tail, 0, 0⟩, ⟨2, 8, .tail, 0, 0⟩]⟩ [.append 8 ⟨1, "x"⟩]
      ⟨{ (((Window.new {}).openTask 7).1.openTask 8).1 with
          totalLines := 1
          loaded := some ⟨1, 1⟩
          buffer := [⟨1, "x"⟩] }, [⟨1, 7, .tail, 0, 0⟩, ⟨2, 8, .tail, 0, 0⟩]⟩ :=
    Run.nil.snoc (Step.of_perform (by trivial) rfl rfl)
  ⟨hpre, hop, hpost, fenced_tickets_stale_and_lines_delivered hpre hop hpost⟩

end Session

end TaskConsole
