import TaskConsole.Proofs.Window.Frame

/-! Tickets and generations: held tickets are of the current generation or older
(`Session.TicketsDated`), and the load in flight is the one live ticket
(`Session.OneLive`). -/

namespace TaskConsole

namespace Window

/-- What decides whether a ticket is current: the generation, the open task and
the load in flight. -/
def tickets (w : Window) : Nat × Option Nat × Option LoadTicket :=
  (w.generation, w.task, w.inFlight)

variable {w w' : Window}

theorem tickets_eq_iff {v : Window} {g : Nat} {task : Option Nat} {f : Option LoadTicket} :
    v.tickets = (g, task, f) ↔ v.generation = g ∧ v.task = task ∧ v.inFlight = f := by
  simp [tickets]

theorem flush_tickets {r : FlushReport} (h : w.flush = .ok (w', r)) :
    w'.tickets = w.tickets := by
  rcases flush_eq h with ⟨-, rfl⟩ | ⟨d, s, -, rfl, -⟩ <;> rfl

theorem appendStreamed_tickets {task : Nat} {l : LogLine} {b : Bool}
    (h : w.appendStreamed task l = .ok (w', b)) : w'.tickets = w.tickets := by
  rcases appendStreamed_eq h with
    ⟨-, rfl⟩ | ⟨-, -, first, w₁, -, rfl, ⟨-, rfl⟩ | ⟨-, r, hflush⟩⟩
  · rfl
  · rfl
  · exact (flush_tickets hflush :)

theorem commitPrefetch_tickets {b : Bool} (h : w.commitPrefetch = .ok (w', b)) :
    w'.tickets = w.tickets := by
  rcases commitPrefetch_eq h with ⟨-, rfl, -⟩ | ⟨staged, d, s, -, -, rfl, -⟩ <;> rfl

theorem applyPrimary_tickets {ticket : LoadTicket} {result : Except LoadError LogChunk}
    {o : LoadOutcome} (h : w.applyPrimary ticket result = .ok (w', o)) :
    w'.tickets = w.tickets ∧ o ≠ .stale := by
  rcases applyPrimary_cases h with ⟨e, rfl, rfl⟩ | ⟨chunk, rfl, hne⟩
  · exact ⟨rfl, by simp⟩
  · obtain ⟨rfl, streamed, buffer, newer, -, ⟨-, rfl⟩ | ⟨lo, hi, d, s, -, -, rfl, -⟩⟩ :=
      applyPrimary_applied rfl hne h
    · exact ⟨rfl, by simp⟩
    · exact ⟨rfl, by simp⟩

theorem applyPrefetch_tickets {result : Except LoadError LogChunk} {o : LoadOutcome}
    (h : w.applyPrefetch result = .ok (w', o)) : w'.tickets = w.tickets ∧ o ≠ .stale := by
  rcases applyPrefetch_eq h with
    ⟨e, -, rfl, rfl⟩ | ⟨chunk, -, rfl, ⟨-, rfl⟩ | ⟨lo, hi, w₁, -, -, rfl, ⟨-, b, hc⟩ | ⟨-, rfl⟩⟩⟩
  · exact ⟨rfl, by simp⟩
  · exact ⟨rfl, by simp⟩
  · exact ⟨(commitPrefetch_tickets hc :), by simp⟩
  · exact ⟨rfl, by simp⟩

/-- A stale ticket changes nothing; a current one is not stale, and it stops the
load in flight if it is that load. -/
theorem complete_tickets {ticket : LoadTicket} {result : Except LoadError LogChunk}
    {o : LoadOutcome} (h : w.complete ticket result = .ok (w', o)) :
    (ticket.generation ≠ w.generation ∨ w.task ≠ some ticket.task) ∧ w' = w ∧ o = .stale ∨
      ticket.generation = w.generation ∧ w.task = some ticket.task ∧ o ≠ .stale ∧
        w'.tickets = (w.generation, w.task,
          if w.inFlight = some ticket then none else w.inFlight) := by
  rcases complete_eq h with hstale | ⟨hgen, htask, ⟨-, hp⟩ | ⟨-, hp⟩⟩
  · exact .inl hstale
  · exact .inr ⟨hgen, htask, (applyPrefetch_tickets hp).2, (applyPrefetch_tickets hp).1⟩
  · exact .inr ⟨hgen, htask, (applyPrimary_tickets hp).2, (applyPrimary_tickets hp).1⟩

end Window

namespace Session

variable {caller : Caller} {s s' : Session} {op : WindowOp}

/-- What one step does to the tickets: a new generation with its ticket in flight, a
prefetch issued, a current ticket handed back, or at most a stale one. -/
theorem Step.tickets (h : Step caller s op s') :
    (∃ issued : Option LoadTicket, s'.held = s.held ++ issued.toList ∧
        s'.window.generation = s.window.generation + 1 ∧ s'.window.inFlight = issued ∧
        (issued = none → s'.window.task = none) ∧
        ∀ t, issued = some t →
          t.generation = s'.window.generation ∧ s'.window.task = some t.task) ∨
      (∃ t, s'.held = s.held ++ [t] ∧ s.window.inFlight = none ∧
        t.generation = s.window.generation ∧ s.window.task = some t.task ∧
        t.kind = .prefetch ∧
        s'.window.tickets = (s.window.generation, s.window.task, some t)) ∨
      (∃ t, t ∈ s.held ∧ s'.held = (if caller.once then s.held.erase t else s.held) ∧
        t.generation = s.window.generation ∧ s.window.task = some t.task ∧
        s'.window.tickets = (s.window.generation, s.window.task,
          if s.window.inFlight = some t then none else s.window.inFlight)) ∨
      s'.window.tickets = s.window.tickets ∧
        (s'.held = s.held ∨ ∃ t, (t.generation ≠ s.window.generation ∨
          s.window.task ≠ some t.task) ∧
          s'.held = (if caller.once then s.held.erase t else s.held)) := by
  cases h with
  | @mk w held _ w' issued hallow hperf =>
  have hop := Window.perform_eq_ok hperf
  simp only
  cases op with
  | openTask task =>
    obtain ⟨rfl, rfl⟩ := hop
    exact .inl ⟨_, rfl, rfl, rfl, by simp, fun t ht => by cases ht; exact ⟨rfl, rfl⟩⟩
  | reload =>
    cases htask : w.task with
    | none =>
      rw [Window.reload_of_none htask] at hop
      cases hop
      exact .inr (.inr (.inr ⟨rfl, .inl (List.append_nil _)⟩))
    | some task =>
      rw [Window.reload_of_task htask] at hop
      cases hop
      exact .inl ⟨_, rfl, rfl, rfl, by simp, fun t ht => by cases ht; exact ⟨rfl, rfl⟩⟩
  | close =>
    obtain ⟨rfl, rfl⟩ := hop
    exact .inl ⟨none, rfl, rfl, rfl, fun _ => rfl, fun t ht => by cases ht⟩
  | loadRange first last =>
    rcases hop with hp | ⟨-, rfl, rfl⟩
    · rcases Window.loadRange_eq_ok hp with hdropped | ⟨task, htask, -, hissued⟩
      · cases hdropped
        exact .inr (.inr (.inr ⟨rfl, .inl (List.append_nil _)⟩))
      · cases hissued
        exact .inl ⟨_, rfl, rfl, rfl, by simp, fun t ht => by cases ht; exact ⟨rfl, htask⟩⟩
    · exact .inr (.inr (.inr ⟨rfl, .inl (List.append_nil _)⟩))
  | complete t r =>
    obtain ⟨-, o, hc⟩ := hop
    rcases Window.complete_tickets hc with ⟨hstale, rfl, -⟩ | ⟨hgen, htask, -, htickets⟩
    · exact .inr (.inr (.inr ⟨rfl, .inr ⟨t, hstale, rfl⟩⟩))
    · exact .inr (.inr (.inl ⟨t, hallow.1, rfl, hgen, htask, htickets⟩))
  | append task l =>
    obtain ⟨rfl, b, ha⟩ := hop
    exact .inr (.inr (.inr ⟨Window.appendStreamed_tickets ha, .inl (List.append_nil _)⟩))
  | flush =>
    obtain ⟨rfl, r, hf⟩ := hop
    exact .inr (.inr (.inr ⟨Window.flush_tickets hf, .inl (List.append_nil _)⟩))
  | commit =>
    obtain ⟨rfl, b, hc⟩ := hop
    exact .inr (.inr (.inr ⟨Window.commitPrefetch_tickets hc, .inl (List.append_nil _)⟩))
  | prefetch position height =>
    rcases Window.prefetchAbove_eq hop with
      ⟨rfl, rfl⟩ | ⟨task, loaded, htask, -, -, -, hflight, -, -, rfl, rfl⟩
    · exact .inr (.inr (.inr ⟨rfl, .inl (List.append_nil _)⟩))
    · exact .inr (.inl ⟨_, rfl, hflight, rfl, htask, rfl, rfl⟩)
  | onScroll =>
    obtain ⟨w₁, hp, hcommit⟩ := Window.onScroll_eq hop
    have hw' : w'.tickets = w₁.tickets := by
      rcases hcommit with ⟨-, -, b, hc⟩ | ⟨-, rfl⟩
      · exact (Window.commitPrefetch_tickets hc :)
      · rfl
    rcases Window.prefetchAbove_eq hp with
      ⟨rfl, rfl⟩ | ⟨task, loaded, htask, -, -, -, hflight, -, -, rfl, rfl⟩
    · exact .inr (.inr (.inr ⟨hw', .inl (List.append_nil _)⟩))
    · exact .inr (.inl ⟨_, rfl, hflight, rfl, htask, rfl, hw'⟩)
  | setRows _ | scroll _ | toTop | toBottom =>
    obtain ⟨rfl, sc, v, rfl⟩ := hop
    exact .inr (.inr (.inr ⟨rfl, .inl (List.append_nil _)⟩))

theorem mem_of_mem_handedBack {once : Bool} {held : List LoadTicket} {t u : LoadTicket}
    (h : u ∈ (if once then held.erase t else held)) : u ∈ held := by
  split at h
  · exact List.mem_of_mem_erase h
  · exact h

/-- Every held ticket is of the current generation or an older one, and of an
older one once no task is open. -/
def TicketsDated (s : Session) : Prop :=
  ∀ t ∈ s.held, t.generation ≤ s.window.generation ∧
    (s.window.task = none → t.generation < s.window.generation)

theorem TicketsDated.step (hd : TicketsDated s) (h : Step caller s op s') :
    TicketsDated s' := by
  rcases h.tickets with
    ⟨issued, hheld, hgen, -, -, hsome⟩ | ⟨t, hheld, -, htgen, htask, -, htickets⟩ |
      ⟨t, -, hheld, -, -, htickets⟩ | ⟨htickets, hheld⟩
  · -- a new generation: older tickets are older than it, the new one is of it
    intro u hu
    rw [hheld, List.mem_append] at hu
    rcases hu with hu | hu
    · have hu' := (hd u hu).1
      exact ⟨by omega, fun _ => by omega⟩
    · obtain ⟨hg, ht⟩ := hsome u (Option.mem_toList.mp hu)
      exact ⟨Nat.le_of_eq hg, fun hnone => by simp [hnone] at ht⟩
  · obtain ⟨hg', ht', -⟩ := Window.tickets_eq_iff.mp htickets
    intro u hu
    rw [hheld, List.mem_append, List.mem_singleton] at hu
    rw [hg', ht']
    rcases hu with hu | rfl
    · exact hd u hu
    · exact ⟨Nat.le_of_eq htgen, fun hnone => by simp [hnone] at htask⟩
  · obtain ⟨hg', ht', -⟩ := Window.tickets_eq_iff.mp htickets
    intro u hu
    rw [hg', ht']
    exact hd u (mem_of_mem_handedBack (hheld ▸ hu))
  · obtain ⟨hg', ht', -⟩ := Window.tickets_eq_iff.mp htickets
    intro u hu
    rw [hg', ht']
    rcases hheld with hheld | ⟨t, -, hheld⟩
    · exact hd u (hheld ▸ hu)
    · exact hd u (mem_of_mem_handedBack (hheld ▸ hu))

/-- For a caller that hands each ticket back once: the load in flight is held
exactly once, is of the current generation and of the open task, and no other
held ticket is of the current generation. -/
structure OneLive (s : Session) : Prop where
  dated : TicketsDated s
  current : ∀ t ∈ s.held, t.generation = s.window.generation → s.window.inFlight = some t
  inFlight : ∀ t, s.window.inFlight = some t →
    s.held.count t = 1 ∧ t.generation = s.window.generation ∧ s.window.task = some t.task

theorem OneLive.step (honce : caller.once = true) (hl : OneLive s) (h : Step caller s op s') :
    OneLive s' := by
  refine ⟨hl.dated.step h, ?_, ?_⟩ <;>
  rcases h.tickets with
    ⟨issued, hheld, hgen, hflight, -, hsome⟩ | ⟨t, hheld, hflight, htgen, htask, -, htickets⟩ |
      ⟨t, hmem, hheld, htgen, htask, htickets⟩ | ⟨htickets, hheld⟩
  · -- a new generation holds only the new ticket
    intro u hu hug
    rw [hheld, List.mem_append] at hu
    rcases hu with hu | hu
    · have := (hl.dated u hu).1
      omega
    · rw [hflight, Option.mem_toList.mp hu]
  · obtain ⟨hg', -, hf'⟩ := Window.tickets_eq_iff.mp htickets
    intro u hu hug
    rw [hheld, List.mem_append, List.mem_singleton] at hu
    rcases hu with hu | rfl
    · have := hl.current u hu (hug.trans hg')
      rw [hflight] at this
      cases this
    · exact hf'
  · -- the handed back ticket was the load in flight, and was its only copy
    obtain ⟨hg', -, -⟩ := Window.tickets_eq_iff.mp htickets
    have hflight := hl.current t hmem htgen
    have hcount := (hl.inFlight t hflight).1
    intro u hu hug
    simp only [honce, if_true] at hheld
    rw [hheld] at hu
    have hut : u = t := by
      have := hl.current u (List.mem_of_mem_erase hu) (hug.trans hg')
      rw [hflight] at this
      exact (Option.some.inj this).symm
    subst hut
    have : (s.held.erase u).count u = 0 := by rw [List.count_erase_self, hcount]
    exact absurd hu (List.count_eq_zero.mp this)
  · obtain ⟨hg', -, hf'⟩ := Window.tickets_eq_iff.mp htickets
    intro u hu hug
    rw [hf']
    rcases hheld with hheld | ⟨t, -, hheld⟩
    · exact hl.current u (hheld ▸ hu) (hug.trans hg')
    · exact hl.current u (mem_of_mem_handedBack (hheld ▸ hu)) (hug.trans hg')
  · intro u hu
    obtain ⟨hg, ht⟩ := hsome u (hflight ▸ hu)
    rw [hflight] at hu
    have hnew : u ∉ s.held := fun hmem => by
      have := (hl.dated u hmem).1
      omega
    rw [hheld, List.count_append, List.count_eq_zero_of_not_mem hnew, hu]
    simp [hg, ht]
  · obtain ⟨hg', ht', hf'⟩ := Window.tickets_eq_iff.mp htickets
    intro u hu
    rw [hf'] at hu
    cases hu
    have hnew : t ∉ s.held := fun hmem => by
      have := hl.current t hmem htgen
      rw [hflight] at this
      cases this
    rw [hheld, List.count_append, List.count_eq_zero_of_not_mem hnew, hg', ht']
    simp [htgen, htask]
  · obtain ⟨hg', ht', hf'⟩ := Window.tickets_eq_iff.mp htickets
    intro u hu
    rw [hf', if_pos (hl.current t hmem htgen)] at hu
    cases hu
  · obtain ⟨hg', ht', hf'⟩ := Window.tickets_eq_iff.mp htickets
    intro u hu
    rw [hf'] at hu
    obtain ⟨hcount, hug, hut⟩ := hl.inFlight u hu
    rw [hg', ht']
    refine ⟨?_, hug, hut⟩
    rcases hheld with hheld | ⟨t, hstale, hheld⟩
    · rw [hheld, hcount]
    · -- the stale ticket handed back is not the load in flight
      have hne : u ≠ t := by
        rintro rfl
        rcases hstale with h | h
        · exact h hug
        · exact h hut
      simp only [honce, if_true] at hheld
      rw [hheld, List.count_erase_of_ne hne, hcount]

/-- Every session a caller reaches from a fresh window has dated tickets. -/
theorem Run.ticketsDated {c : WindowConfig} {ops : List WindowOp}
    (h : Run caller (start c) ops s) : TicketsDated s :=
  h.induction TicketsDated (fun _ _ _ hd hs => hd.step hs) (fun _ ht => by cases ht)

/-- For a caller that hands each ticket back once, every session it reaches has
one live load at most. -/
theorem Run.oneLive (honce : caller.once = true) {c : WindowConfig} {ops : List WindowOp}
    (h : Run caller (start c) ops s) : OneLive s :=
  h.induction OneLive (fun _ _ _ hl hs => hl.step honce hs)
    ⟨fun _ ht => (by cases ht), fun _ ht => (by cases ht), fun _ ht => (by cases ht)⟩

/-- For a caller that hands each ticket back once: the load in flight is the one held
ticket of the current generation, and the window is loading exactly while it exists. -/
structure LiveLoad (s : Session) : Prop where
  at_most_one : s.held.countP (·.generation = s.window.generation) ≤ 1
  current_inFlight : ∀ t ∈ s.held, t.generation = s.window.generation →
    s.window.inFlight = some t
  loading_iff : s.window.isLoading = true ↔ ∃ t ∈ s.held, t.generation = s.window.generation
  inFlight_current : ∀ t, s.window.inFlight = some t →
    t.generation = s.window.generation ∧ s.window.task = some t.task ∧
      ∀ result w' o, s.window.complete t result = .ok (w', o) →
        o ≠ .stale ∧ w'.isLoading = false
  range_dropped : ∀ first last w', s.window.loadRange first last = .ok (w', none) →
    w' = s.window
  prefetch_dropped : ∀ position height w',
    s.window.prefetchAbove position height = (w', none) → w' = s.window
  range_refused : ∀ first last e, s.window.loadRange first last = .error e ↔
    (first = 0 ∨ last < first) ∧ e = .invalidRange first last

theorem OneLive.at_most_one (hl : OneLive s) :
    s.held.countP (·.generation = s.window.generation) ≤ 1 := by
  cases hf : s.window.inFlight with
  | none =>
    have : s.held.countP (·.generation = s.window.generation) = 0 := by
      rw [List.countP_eq_zero]
      intro u hu hug
      have := hl.current u hu (of_decide_eq_true hug)
      rw [hf] at this
      cases this
    omega
  | some t =>
    -- every current ticket held is the load in flight, which is held once
    have hle : s.held.countP (·.generation = s.window.generation) ≤ s.held.count t := by
      rw [List.count_eq_countP]
      refine List.countP_mono_left fun u hu hug => ?_
      have := hl.current u hu (of_decide_eq_true hug)
      rw [hf] at this
      simp [Option.some.inj this]
    have := (hl.inFlight t hf).1
    omega

theorem OneLive.liveLoad (hl : OneLive s) : LiveLoad s where
  at_most_one := hl.at_most_one
  current_inFlight := hl.current
  loading_iff := by
    constructor
    · intro hload
      obtain ⟨t, ht⟩ := Option.isSome_iff_exists.mp hload
      obtain ⟨hcount, hg, -⟩ := hl.inFlight t ht
      exact ⟨t, List.count_pos_iff.mp (by omega), hg⟩
    · rintro ⟨t, ht, hg⟩
      simp [Window.isLoading, hl.current t ht hg]
  inFlight_current := by
    intro t ht
    obtain ⟨-, hg, htask⟩ := hl.inFlight t ht
    refine ⟨hg, htask, fun result w' o hc => ?_⟩
    rcases Window.complete_tickets hc with ⟨hstale, -, -⟩ | ⟨-, -, ho, htickets⟩
    · rcases hstale with h | h
      · exact absurd hg h
      · exact absurd htask h
    · obtain ⟨-, -, hf'⟩ := Window.tickets_eq_iff.mp htickets
      rw [if_pos ht] at hf'
      exact ⟨ho, by simp [Window.isLoading, hf']⟩
  range_dropped := fun _ _ _ h => Window.loadRange_dropped h
  prefetch_dropped := fun _ _ _ h => Window.prefetchAbove_dropped h
  range_refused := fun _ _ _ => Window.loadRange_eq_error

/-- For a caller that hands each ticket back at most once, whatever the results,
at most one load is live at every point of every run. -/
theorem single_live_load {c : WindowConfig} {ops : List WindowOp}
    (h : Run Caller.single (start c) ops s) : LiveLoad s :=
  (h.oneLive rfl).liveLoad

/-- Opening a task and then jumping to a range: the jump is dropped while the
tail is in flight, and the tail is the one live load. -/
theorem single_live_load_open_then_range :
    Run Caller.single (start {}) [.openTask 7, .loadRange 1 10]
        ⟨((Window.new {}).openTask 7).1, [⟨1, 7, .tail, 0, 0⟩]⟩ ∧
      LiveLoad ⟨((Window.new {}).openTask 7).1, [⟨1, 7, .tail, 0, 0⟩]⟩ :=
  have hrun : Run Caller.single (start {}) [.openTask 7, .loadRange 1 10]
      ⟨((Window.new {}).openTask 7).1, [⟨1, 7, .tail, 0, 0⟩]⟩ :=
    (Run.nil.snoc (Step.of_perform (by trivial) rfl rfl)).snoc
      (Step.of_perform (by trivial) rfl rfl)
  ⟨hrun, single_live_load hrun⟩

end Session

end TaskConsole
