import TaskConsole.Proofs.Window.Tickets

/-! Failed loads: a failed prefetch is dropped, a failed tail or range replaces the
display by the error (`Session.failed_load_frame`). -/

namespace TaskConsole

namespace Window

variable {w w' : Window} {t : LoadTicket}

/-- A current prefetch ticket has its result taken as a prefetch result, by the
window without the load in flight if that is the ticket's. -/
theorem complete_prefetch {result : Except LoadError LogChunk}
    (hgen : t.generation = w.generation) (htask : w.task = some t.task)
    (hkind : t.kind = .prefetch) :
    w.complete t result =
      { w with inFlight := if w.inFlight = some t then none else w.inFlight }.applyPrefetch
        result := by
  unfold complete
  rw [if_neg (by simp [hgen, htask])]
  have hw : (if w.inFlight = some t then { w with inFlight := none } else w) =
      { w with inFlight := if w.inFlight = some t then none else w.inFlight } := by
    split <;> rfl
  dsimp only
  rw [hw, hkind]

/-- A failed prefetch returns its failure and changes nothing. -/
theorem applyPrefetch_error (w : Window) (e : LoadError) :
    w.applyPrefetch (.error e) = .ok (w, .failed e) := rfl

/-- A failed primary load, or a range that came back without lines, returns the
failure and replaces the display by it. -/
theorem applyPrimary_of_failure {result : Except LoadError LogChunk} {e : LoadError}
    (hfail : result = .error e ∨
      t.kind = .range ∧ e = .noData ∧ ∃ chunk, result = .ok chunk ∧ chunk.lines = []) :
    w.applyPrimary t result = .ok ({ w with
      loaded := none
      moreAbove := false
      display := LineMap.empty
      scroll := 0
      state := .error e.message }, .failed e) := by
  rcases hfail with rfl | ⟨hrange, rfl, chunk, rfl, hnil⟩
  · rfl
  · unfold applyPrimary
    dsimp only
    rw [if_pos ⟨by simp [hnil], hrange⟩]
    rfl

/-- A prefetch that fails as soon as it is issued leaves the window as it was
before the prefetch was asked for. -/
theorem prefetchAbove_then_failure {position height : Nat}
    (h : w.prefetchAbove position height = (w', some t)) (e : LoadError) :
    w'.complete t (.error e) = .ok (w, .failed e) := by
  rcases prefetchAbove_eq h with ⟨hnone, -⟩ |
    ⟨task, loaded, htask, -, -, -, hflight, -, -, hissued, rfl⟩
  · cases hnone
  · cases hissued
    rw [complete_prefetch rfl htask rfl, if_pos rfl, applyPrefetch_error]
    -- ending the load restores the window, which had none in flight
    cases w
    cases hflight
    rfl

end Window

namespace Session

variable {caller : Caller} {s s' : Session} {op : WindowOp}

/-- The load in flight is of the current generation and of the open task. -/
def InFlightCurrent (s : Session) : Prop :=
  ∀ t, s.window.inFlight = some t → t.generation = s.window.generation ∧ s.window.task = some t.task

/-- Every step keeps the load in flight current: a new generation starts with its
own ticket, a prefetch is issued in the current one, and handing a ticket back
at most ends the load. -/
theorem InFlightCurrent.step (hc : InFlightCurrent s) (h : Step caller s op s') :
    InFlightCurrent s' := by
  rcases h.tickets with
    ⟨issued, -, -, hflight, -, hsome⟩ | ⟨t, -, -, htgen, htask, -, htickets⟩ |
      ⟨t, -, -, -, -, htickets⟩ | ⟨htickets, -⟩
  · intro u hu
    exact hsome u (hflight ▸ hu)
  · obtain ⟨hg', ht', hf'⟩ := Window.tickets_eq_iff.mp htickets
    intro u hu
    rw [hf'] at hu
    cases hu
    rw [hg', ht']
    exact ⟨htgen, htask⟩
  · obtain ⟨hg', ht', hf'⟩ := Window.tickets_eq_iff.mp htickets
    intro u hu
    rw [hf'] at hu
    split at hu
    · cases hu
    · rw [hg', ht']
      exact hc u hu
  · obtain ⟨hg', ht', hf'⟩ := Window.tickets_eq_iff.mp htickets
    intro u hu
    rw [hg', ht']
    exact hc u (hf' ▸ hu)

/-- In every session a caller reaches, the load in flight is current. -/
theorem Run.inFlightCurrent {c : WindowConfig} {ops : List WindowOp}
    (h : Run caller (start c) ops s) : InFlightCurrent s :=
  h.induction InFlightCurrent (fun _ _ _ hc hs => hc.step hs) (fun _ ht => by cases ht)

/-- What a failed load does in any reachable session: a failed prefetch only ends the
load; a failed primary load shows the error and clears display, range and scroll. -/
theorem failed_load_frame {c : WindowConfig} {ops : List WindowOp}
    (hrun : Run caller (start c) ops s) {t : LoadTicket} (ht : s.window.inFlight = some t) :
    (t.kind = .prefetch → ∀ e, s.window.complete t (.error e) =
      .ok ({ s.window with inFlight := none }, .failed e)) ∧
    (∀ w position height, w.prefetchAbove position height = (s.window, some t) →
      ∀ e, s.window.complete t (.error e) = .ok (w, .failed e)) ∧
    (t.kind ≠ .prefetch → ∀ result e,
      (result = .error e ∨
        t.kind = .range ∧ e = .noData ∧ ∃ chunk, result = .ok chunk ∧ chunk.lines = []) →
      s.window.complete t result = .ok ({ s.window with
        inFlight := none
        loaded := none
        moreAbove := false
        display := LineMap.empty
        scroll := 0
        state := .error e.message }, .failed e)) := by
  obtain ⟨hgen, htask⟩ := hrun.inFlightCurrent t ht
  refine ⟨fun hkind e => ?_, fun w position height hp e => Window.prefetchAbove_then_failure hp e,
    fun hkind result e hfail => ?_⟩
  · rw [Window.complete_prefetch hgen htask hkind, if_pos ht, Window.applyPrefetch_error]
  · rw [Window.complete_primary hgen htask hkind, if_pos ht, Window.applyPrimary_of_failure hfail]

/-- Opening a task puts its tail in flight; handed back failed, it shows the
error in place of the loading note. -/
theorem failed_load_frame_after_open :
    Run Caller.single (start {}) [.openTask 7]
        ⟨((Window.new {}).openTask 7).1, [⟨1, 7, .tail, 0, 0⟩]⟩ ∧
      ((Window.new {}).openTask 7).1.inFlight = some ⟨1, 7, .tail, 0, 0⟩ ∧
      ((Window.new {}).openTask 7).1.complete ⟨1, 7, .tail, 0, 0⟩ (.error .noData) =
        .ok ({ ((Window.new {}).openTask 7).1 with
          inFlight := none
          loaded := none
          moreAbove := false
          display := LineMap.empty
          scroll := 0
          state := .error LoadError.noData.message }, .failed .noData) := by
  have hrun : Run Caller.single (start {}) [.openTask 7]
      ⟨((Window.new {}).openTask 7).1, [⟨1, 7, .tail, 0, 0⟩]⟩ :=
    Run.nil.snoc (Step.of_perform (by trivial) rfl rfl)
  have hflight : ((Window.new {}).openTask 7).1.inFlight = some ⟨1, 7, .tail, 0, 0⟩ := rfl
  exact ⟨hrun, hflight, (failed_load_frame hrun hflight).2.2 (by decide) _ _ (.inl rfl)⟩

end Session

end TaskConsole
