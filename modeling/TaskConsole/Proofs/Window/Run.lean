import TaskConsole.Window.Load

/-! Runs of a log window: operations as data (`WindowOp`), a caller holding the tickets
handed out, and induction along runs (`Session.Run.induction`). -/

namespace TaskConsole

/-- A public operation on a log window; a ticket is handed back by value. -/
inductive WindowOp where
  | openTask (task : Nat)
  | reload
  | close
  | loadRange (first last : Nat)
  | complete (ticket : LoadTicket) (result : Except LoadError LogChunk)
  | append (task : Nat) (line : LogLine)
  | flush
  | prefetch (position height : Nat)
  | commit
  | onScroll
  | setRows (rows : Nat)
  | scroll (delta : Int)
  | toTop
  | toBottom

namespace Window

/-- Perform one operation: the window after it, and the ticket it handed out.
A range jump the window refuses leaves it as it was. -/
def perform (w : Window) : WindowOp → Checked (Window × Option LoadTicket)
  | .openTask task =>
    let p := w.openTask task
    pure (p.1, some p.2)
  | .reload => pure w.reload
  | .close => pure (w.close, none)
  | .loadRange first last =>
    match w.loadRange first last with
    | .ok p => pure p
    | .error _ => pure (w, none)
  | .complete ticket result => do
    let (w, _) ← w.complete ticket result
    pure (w, none)
  | .append task line => do
    let (w, _) ← w.appendStreamed task line
    pure (w, none)
  | .flush => do
    let (w, _) ← w.flush
    pure (w, none)
  | .prefetch position height => pure (w.prefetchAbove position height)
  | .commit => do
    let (w, _) ← w.commitPrefetch
    pure (w, none)
  | .onScroll => w.onScroll
  | .setRows rows => do
    let w ← w.setViewportRows rows
    pure (w, none)
  | .scroll delta => do
    let w ← w.scrollLines delta
    pure (w, none)
  | .toTop => pure (w.scrollToTop, none)
  | .toBottom => do
    let w ← w.scrollToBottom
    pure (w, none)

end Window

/-- How a caller hands load results back: the results it may give for a ticket,
and whether it gives each ticket back at most once. -/
structure Caller where
  answers : LoadTicket → Except LoadError LogChunk → Prop
  once : Bool

namespace Caller

/-- Whether a caller holding `held` may perform `op`: it hands a result back
only for a ticket it holds. -/
def Allows (caller : Caller) (held : List LoadTicket) : WindowOp → Prop
  | .complete ticket result => ticket ∈ held ∧ caller.answers ticket result
  | _ => True

/-- The tickets held after `op`, which handed out `issued`: a ticket given back
once is no longer held, a ticket handed out is. -/
def keep (caller : Caller) (held : List LoadTicket) : WindowOp → Option LoadTicket →
    List LoadTicket
  | .complete ticket _, _ => if caller.once then held.erase ticket else held
  | _, issued => held ++ issued.toList

/-- Hands back any result, for any ticket it was given, as often as it likes. -/
def free : Caller := ⟨fun _ _ => True, false⟩

/-- Hands back any result, each ticket at most once. -/
def single : Caller := ⟨fun _ _ => True, true⟩

/-- Hands back each ticket at most once, with an error or with the lines the
logs endpoint returned for the ticket's bounds, numbered by `LogChunk.ofTexts`. -/
def wire : Caller where
  answers ticket result := (∃ e, result = .error e) ∨
    ∃ texts total chunk, LogChunk.ofTexts ticket.first ticket.last texts total = .ok chunk ∧
      result = .ok chunk
  once := true

end Caller

/-- A window with the tickets its caller holds. -/
structure Session where
  window : Window
  held : List LoadTicket

/-- What a configuration the window accepts says of its sizes: a first batch of
at least one line, no larger than its cap, and positive flush threshold, display
bound and line height. -/
structure WindowConfig.Sizes (c : WindowConfig) : Prop where
  initial_pos : 1 ≤ c.initialBatch
  initial_le : c.initialBatch ≤ c.maxBatch
  flush_pos : 0 < c.flushThreshold
  display_pos : 0 < c.maxDisplayLines
  lineHeight_pos : 0 < c.lineHeight

theorem WindowConfig.sizes_of_check {c : WindowConfig} (h : c.check = none) : c.Sizes := by
  unfold WindowConfig.check at h
  split at h
  · cases h
  rename_i hfirst
  split at h
  · cases h
  rename_i hcap
  -- the prefetch fraction says nothing of the sizes
  split at h
  · cases h
  split at h
  · cases h
  rename_i hpos
  simp only [beq_iff_eq] at hfirst
  simp only [Bool.or_eq_true, beq_iff_eq, not_or] at hpos
  exact ⟨Nat.pos_of_ne_zero hfirst, Nat.le_of_not_lt hcap, Nat.pos_of_ne_zero hpos.1.1,
    Nat.pos_of_ne_zero hpos.1.2, Nat.pos_of_ne_zero hpos.2⟩

namespace Session

/-- A fresh window whose caller holds nothing. -/
def start (config : WindowConfig) : Session := ⟨Window.new config, []⟩

/-- One operation of `caller` on a session. -/
inductive Step (caller : Caller) : Session → WindowOp → Session → Prop
  | mk {w : Window} {held : List LoadTicket} {op : WindowOp} {w' : Window}
      {issued : Option LoadTicket} :
      caller.Allows held op → w.perform op = .ok (w', issued) →
      Step caller ⟨w, held⟩ op ⟨w', caller.keep held op issued⟩

/-- The operations `caller` performs from a session, in order, and the session
they reach. -/
inductive Run (caller : Caller) : Session → List WindowOp → Session → Prop
  | nil {s : Session} : Run caller s [] s
  | snoc {s s₁ s₂ : Session} {ops : List WindowOp} {op : WindowOp} :
      Run caller s ops s₁ → Step caller s₁ op s₂ → Run caller s (ops ++ [op]) s₂

variable {caller : Caller}

/-- A ticket held after an operation was held before it or handed out by it. -/
theorem mem_keep {held : List LoadTicket} {op : WindowOp} {issued : Option LoadTicket}
    {t : LoadTicket} (h : t ∈ caller.keep held op issued) : t ∈ held ∨ issued = some t := by
  cases op with
  | complete ticket result =>
    simp only [Caller.keep] at h
    split at h
    · exact .inl (List.mem_of_mem_erase h)
    · exact .inl h
  | _ =>
    simp only [Caller.keep, List.mem_append, Option.mem_toList] at h
    exact h

/-- A step, with the tickets held after it given by an equation. -/
theorem Step.of_perform {w w' : Window} {held held' : List LoadTicket} {op : WindowOp}
    {issued : Option LoadTicket} (hallow : caller.Allows held op)
    (h : w.perform op = .ok (w', issued)) (hheld : held' = caller.keep held op issued) :
    Step caller ⟨w, held⟩ op ⟨w', held'⟩ := by
  subst hheld
  exact Step.mk hallow h

/-- A property that every step keeps holds at the end of every run from a
session that has it. -/
theorem Run.induction (P : Session → Prop)
    (hstep : ∀ s op s', P s → Step caller s op s' → P s')
    {s s' : Session} {ops : List WindowOp} (h : Run caller s ops s') (h₀ : P s) : P s' := by
  induction h with
  | nil => exact h₀
  | snoc _ hs ih => exact hstep _ _ _ ih hs

/-- A run goes on by one operation the window performs. -/
theorem Run.perform {s : Session} {ops : List WindowOp} {w w' : Window}
    {held : List LoadTicket} {issued : Option LoadTicket} (h : Run caller s ops ⟨w, held⟩)
    (op : WindowOp) (hallow : caller.Allows held op) (hperf : w.perform op = .ok (w', issued)) :
    Run caller s (ops ++ [op]) ⟨w', caller.keep held op issued⟩ :=
  h.snoc (.mk hallow hperf)

/-- The runs of `caller` in which every operation meets `guard` on the window
it is performed on. -/
inductive GuardedRun (caller : Caller) (guard : Window → WindowOp → Prop) :
    Session → List WindowOp → Session → Prop
  | nil {s : Session} : GuardedRun caller guard s [] s
  | snoc {s s₁ s₂ : Session} {ops : List WindowOp} {op : WindowOp} :
      GuardedRun caller guard s ops s₁ → guard s₁.window op → Step caller s₁ op s₂ →
      GuardedRun caller guard s (ops ++ [op]) s₂

variable {guard : Window → WindowOp → Prop}

theorem GuardedRun.run {s s' : Session} {ops : List WindowOp}
    (h : GuardedRun caller guard s ops s') : Run caller s ops s' := by
  induction h with
  | nil => exact .nil
  | snoc _ _ hs ih => exact ih.snoc hs

/-- A property that every step meeting the guard keeps holds at the end of every
guarded run from a session that has it. -/
theorem GuardedRun.induction (P : Session → Prop)
    (hstep : ∀ s op s', P s → guard s.window op → Step caller s op s' → P s')
    {s s' : Session} {ops : List WindowOp} (h : GuardedRun caller guard s ops s') (h₀ : P s) :
    P s' := by
  induction h with
  | nil => exact h₀
  | snoc _ hg hs ih => exact hstep _ _ _ ih hg hs

/-- A guarded run goes on by one operation the window performs. -/
theorem GuardedRun.perform {s : Session} {ops : List WindowOp} {w w' : Window}
    {held : List LoadTicket} {issued : Option LoadTicket}
    (h : GuardedRun caller guard s ops ⟨w, held⟩) (op : WindowOp) (hg : guard w op)
    (hallow : caller.Allows held op) (hperf : w.perform op = .ok (w', issued)) :
    GuardedRun caller guard s (ops ++ [op]) ⟨w', caller.keep held op issued⟩ :=
  h.snoc hg (.mk hallow hperf)

end Session

end TaskConsole
