import TaskConsole.Console.Loop
import TaskConsole.Proofs.Window.Tickets

/-! Every load and every list request reaches the service: along the event loop the
commands drained and still queued are, in order, every ticket and request handed
out since the start (`Console.Relayed`). -/

namespace TaskConsole

/-- The load ticket a command hands to the service. -/
def Command.ticket? : Command → Option LoadTicket
  | .fetchLogs t => some t
  | _ => none

/-- The list request a command hands to the service. -/
def Command.request? : Command → Option ListRequest
  | .fetchTasks r => some r
  | _ => none

namespace Command

theorem tickets_map_fetchLogs (ts : List LoadTicket) : (ts.map fetchLogs).filterMap ticket? = ts := by
  rw [List.filterMap_map]
  exact List.filterMap_some

theorem requests_map_fetchLogs (ts : List LoadTicket) :
    (ts.map fetchLogs).filterMap request? = [] := by
  rw [List.filterMap_map]
  exact List.filterMap_eq_nil_iff.mpr fun _ _ => rfl

theorem tickets_map_fetchTasks (rs : List ListRequest) :
    (rs.map fetchTasks).filterMap ticket? = [] := by
  rw [List.filterMap_map]
  exact List.filterMap_eq_nil_iff.mpr fun _ _ => rfl

theorem requests_map_fetchTasks (rs : List ListRequest) :
    (rs.map fetchTasks).filterMap request? = rs := by
  rw [List.filterMap_map]
  exact List.filterMap_some

theorem fetchLogs_mem_of_mem_tickets {cmds : List Command} {t : LoadTicket}
    (h : t ∈ cmds.filterMap ticket?) : fetchLogs t ∈ cmds := by
  obtain ⟨cmd, hmem, hcmd⟩ := List.mem_filterMap.mp h
  cases cmd with
  | fetchLogs u =>
    cases hcmd
    exact hmem
  | _ => cases hcmd

end Command

/-! ## Runs of the task list -/

/-- The task list's operations, as the console performs them. -/
inductive TaskListOp where
  | refresh
  | status (u : StatusUpdate)
  | nextPage
  | prevPage
  | cyclePageSize (forward : Bool)
  | cycleFilter
  | selectNext
  | selectPrev
  | page (seq : Nat) (result : Except LoadError TaskPage)

namespace TaskList

/-- One operation: the list after it, and the request it issued. -/
def perform (l : TaskList) : TaskListOp → Checked (TaskList × Option ListRequest)
  | .refresh => l.refresh.map fun p => (p.1, some p.2)
  | .status u => l.applyStatus u
  | .nextPage => l.nextPage
  | .prevPage => l.prevPage
  | .cyclePageSize forward => (l.cyclePageSize forward).map fun p => (p.1, some p.2)
  | .cycleFilter => l.cycleFilter.map fun p => (p.1, some p.2)
  | .selectNext => pure (l.selectNext, none)
  | .selectPrev => pure (l.selectPrev, none)
  | .page seq result => pure ((l.applyPage seq result).1, none)

/-- Operations performed from a list, in order, the requests they issued, in
order, and the list they reach. -/
inductive Run : TaskList → List TaskListOp → List ListRequest → TaskList → Prop
  | nil {l : TaskList} : Run l [] [] l
  | snoc {l l₁ l₂ : TaskList} {ops : List TaskListOp} {rs : List ListRequest} {op : TaskListOp}
      {r? : Option ListRequest} :
      Run l ops rs l₁ → l₁.perform op = .ok (l₂, r?) → Run l (ops ++ [op]) (rs ++ r?.toList) l₂

theorem Run.append {l l₁ l₂ : TaskList} {ops ops' : List TaskListOp} {rs rs' : List ListRequest}
    (h₁ : Run l ops rs l₁) (h₂ : Run l₁ ops' rs' l₂) : Run l (ops ++ ops') (rs ++ rs') l₂ := by
  induction h₂ with
  | nil => simpa using h₁
  | snoc _ hp ih =>
    rw [← List.append_assoc, ← List.append_assoc]
    exact ih.snoc hp

/-- Some run from `l` reaches `l'` and issues exactly `rs`. -/
def Issues (l : TaskList) (rs : List ListRequest) (l' : TaskList) : Prop :=
  ∃ ops, Run l ops rs l'

variable {l l₁ l₂ : TaskList} {rs rs' : List ListRequest}

theorem Issues.refl (l : TaskList) : l.Issues [] l := ⟨[], .nil⟩

theorem Issues.perform {op : TaskListOp} {r? : Option ListRequest}
    (h : l.perform op = .ok (l₁, r?)) : l.Issues r?.toList l₁ :=
  ⟨[op], .snoc .nil h⟩

theorem Issues.trans (h₁ : l.Issues rs l₁) (h₂ : l₁.Issues rs' l₂) : l.Issues (rs ++ rs') l₂ := by
  obtain ⟨ops, h₁⟩ := h₁
  obtain ⟨ops', h₂⟩ := h₂
  exact ⟨ops ++ ops', h₁.append h₂⟩

end TaskList

/-! ## Runs of the log window under a caller that keeps every ticket -/

namespace Session

variable {caller : Caller} {s s₁ s₂ : Session} {ops ops' : List WindowOp}

theorem Run.append (h₁ : Run caller s ops s₁) (h₂ : Run caller s₁ ops' s₂) :
    Run caller s (ops ++ ops') s₂ := by
  induction h₂ with
  | nil => simpa using h₁
  | snoc _ hs ih =>
    rw [← List.append_assoc]
    exact ih.snoc hs

/-- The load in flight has its ticket held. -/
def InFlightHeld (s : Session) : Prop :=
  ∀ t, s.window.inFlight = some t → t ∈ s.held

theorem InFlightHeld.step {op : WindowOp} (hs : InFlightHeld s) (h : Step Caller.free s op s₁) :
    InFlightHeld s₁ := by
  intro t ht
  -- a caller that keeps every ticket erases none when handed one back
  have hkeep : ∀ u, (if Caller.free.once then s.held.erase u else s.held) = s.held := fun _ => rfl
  rcases h.tickets with ⟨issued, hheld, -, hflight, -, -⟩ | ⟨u, hheld, -, -, -, -, htickets⟩ |
      ⟨u, -, hheld, -, -, htickets⟩ | ⟨htickets, hheld⟩
  · -- a reset or a range jump: the new ticket is the one just handed out
    rw [hheld, hflight.symm.trans ht]
    simp
  · -- a prefetch: the prefetch ticket is the one just handed out
    obtain ⟨-, -, hu⟩ := Window.tickets_eq_iff.mp htickets
    have hut : u = t := Option.some.inj (hu.symm.trans ht)
    rw [hheld, hut]
    simp
  · -- a current ticket handed back: what stays in flight was in flight before
    obtain ⟨-, -, hu⟩ := Window.tickets_eq_iff.mp htickets
    rw [hheld, hkeep]
    rw [ht] at hu
    split at hu
    · cases hu
    · exact hs t hu.symm
  · -- the ticket fields stay
    obtain ⟨-, -, hu⟩ := Window.tickets_eq_iff.mp htickets
    have hheld : s₁.held = s.held := by
      rcases hheld with hheld | ⟨u, -, hheld⟩
      · exact hheld
      · rw [hheld, hkeep]
    rw [hheld]
    exact hs t (hu.symm.trans ht)

theorem Run.inFlightHeld (h : Run Caller.free s ops s₁) (hs : InFlightHeld s) : InFlightHeld s₁ :=
  h.induction InFlightHeld (fun _ _ _ hs hstep => hs.step hstep) hs

end Session

namespace Window

variable {w w' w₁ w₂ : Window} {held ts ts' : List LoadTicket}

/-- A caller that keeps every ticket holds, after an operation, what it held
before and the ticket the operation handed out. -/
theorem free_keep {op : WindowOp} {issued : Option LoadTicket}
    (h : w.perform op = .ok (w', issued)) : Caller.free.keep held op issued = held ++ issued.toList := by
  cases op with
  | complete t r =>
    obtain ⟨rfl, -⟩ := perform_eq_ok h
    simp [Caller.keep, Caller.free]
  | _ => rfl

/-- From `w`, with `held` handed out before, some run of a caller that keeps
every ticket reaches `w'` and hands out exactly `tickets`, in order. -/
def Hands (held : List LoadTicket) (w : Window) (tickets : List LoadTicket) (w' : Window) : Prop :=
  ∃ ops, Session.Run Caller.free ⟨w, held⟩ ops ⟨w', held ++ tickets⟩

theorem Hands.refl (held : List LoadTicket) (w : Window) : w.Hands held [] w :=
  ⟨[], by rw [List.append_nil]; exact .nil⟩

theorem Hands.perform (op : WindowOp) {issued : Option LoadTicket}
    (hallow : Caller.free.Allows held op) (h : w.perform op = .ok (w', issued)) :
    w.Hands held issued.toList w' :=
  ⟨[op], .snoc .nil (.of_perform hallow h (free_keep h).symm)⟩

theorem Hands.trans (h₁ : w.Hands held ts w₁) (h₂ : w₁.Hands (held ++ ts) ts' w₂) :
    w.Hands held (ts ++ ts') w₂ := by
  obtain ⟨ops, h₁⟩ := h₁
  obtain ⟨ops', h₂⟩ := h₂
  refine ⟨ops ++ ops', ?_⟩
  rw [← List.append_assoc]
  exact h₁.append h₂

end Window

/-! ## Console actions -/

/-- The service answers only what it was handed: a log load answers a ticket
among `held`. -/
def LoopEvent.Answers (held : List LoadTicket) : LoopEvent → Prop
  | .reply (.logsLoaded t _) => t ∈ held
  | _ => True

theorem LoopEvent.Answers.mono {e : LoopEvent} {held held' : List LoadTicket}
    (h : e.Answers held) (hsub : held ⊆ held') : e.Answers held' := by
  cases e with
  | reply r =>
    cases r with
    | logsLoaded t _ => exact hsub h
    | _ => trivial
  | _ => trivial

namespace Console

@[simp] theorem issue_queue (c : Console) (cmd : Command) : (c.issue cmd).queue = c.queue ++ [cmd] :=
  rfl

@[simp] theorem issue_window (c : Console) (cmd : Command) : (c.issue cmd).window = c.window := rfl

@[simp] theorem issue_tasks (c : Console) (cmd : Command) : (c.issue cmd).tasks = c.tasks := rfl

@[simp] theorem issueList_queue (c : Console) (r? : Option ListRequest) :
    (c.issueList r?).queue = c.queue ++ r?.toList.map .fetchTasks := by
  cases r? <;> simp [issueList]

@[simp] theorem issueList_window (c : Console) (r? : Option ListRequest) :
    (c.issueList r?).window = c.window := by
  cases r? <;> rfl

@[simp] theorem issueList_tasks (c : Console) (r? : Option ListRequest) :
    (c.issueList r?).tasks = c.tasks := by
  cases r? <;> rfl

@[simp] theorem issueLoad_queue (c : Console) (t? : Option LoadTicket) :
    (c.issueLoad t?).queue = c.queue ++ t?.toList.map .fetchLogs := by
  cases t? <;> simp [issueLoad]

@[simp] theorem issueLoad_window (c : Console) (t? : Option LoadTicket) :
    (c.issueLoad t?).window = c.window := by
  cases t? <;> rfl

@[simp] theorem issueLoad_tasks (c : Console) (t? : Option LoadTicket) :
    (c.issueLoad t?).tasks = c.tasks := by
  cases t? <;> rfl

/-- One console action seen from below: runs of the window and the task list whose
tickets and requests are exactly the commands queued, in order. -/
structure Follows (held : List LoadTicket) (c c' : Console) (cmds : List Command) : Prop where
  queue : c'.queue = c.queue ++ cmds
  window : c.window.Hands held (cmds.filterMap Command.ticket?) c'.window
  tasks : c.tasks.Issues (cmds.filterMap Command.request?) c'.tasks

/-- The action from `c` to `c'` queues what the window and the task list
handed out. -/
def Relays (held : List LoadTicket) (c c' : Console) : Prop :=
  ∃ cmds, Follows held c c' cmds

variable {held : List LoadTicket} {c c' c₁ : Console}

theorem Follows.trans {cmds cmds' : List Command} (h₁ : Follows held c c₁ cmds)
    (h₂ : Follows (held ++ cmds.filterMap Command.ticket?) c₁ c' cmds') :
    Follows held c c' (cmds ++ cmds') where
  queue := by rw [h₂.queue, h₁.queue, List.append_assoc]
  window := by
    rw [List.filterMap_append]
    exact h₁.window.trans h₂.window
  tasks := by
    rw [List.filterMap_append]
    exact h₁.tasks.trans h₂.tasks

/-- Relaying depends only on the queue, the window and the task list before. -/
theorem Relays.of_same (h : Relays held c₁ c') (hq : c₁.queue = c.queue)
    (hw : c₁.window = c.window) (ht : c₁.tasks = c.tasks) : Relays held c c' := by
  obtain ⟨cmds, hq', hw', ht'⟩ := h
  exact ⟨cmds, ⟨hq ▸ hq', hw ▸ hw', ht ▸ ht'⟩⟩

/-- An action that touches none of the three queues nothing. -/
theorem relays_quiet (hq : c'.queue = c.queue) (hw : c'.window = c.window)
    (ht : c'.tasks = c.tasks) : Relays held c c' :=
  ⟨[], ⟨by rw [hq, List.append_nil], hw ▸ Window.Hands.refl held _, ht ▸ TaskList.Issues.refl _⟩⟩

/-- An action that cannot stop on an overflow. -/
theorem relays_pure {x : Console} (h : (pure x : Checked Console) = .ok c') (hx : Relays held c x) :
    Relays held c c' := by
  cases h
  exact hx

/-- An action that runs the window and queues the tickets handed out. -/
theorem relays_hands {ts : List LoadTicket} {w : Window} (hh : c.window.Hands held ts w)
    (hq : c'.queue = c.queue ++ ts.map .fetchLogs) (hw : c'.window = w) (ht : c'.tasks = c.tasks) :
    Relays held c c' :=
  ⟨ts.map .fetchLogs, ⟨hq, by rw [Command.tickets_map_fetchLogs, hw]; exact hh,
    by rw [Command.requests_map_fetchLogs, ht]; exact TaskList.Issues.refl _⟩⟩

/-- An action that performs one window operation and queues its ticket. -/
theorem relays_window (op : WindowOp) {w : Window} {t? : Option LoadTicket}
    (hallow : Caller.free.Allows held op) (hp : c.window.perform op = .ok (w, t?))
    (hq : c'.queue = c.queue ++ t?.toList.map .fetchLogs) (hw : c'.window = w)
    (ht : c'.tasks = c.tasks) : Relays held c c' :=
  relays_hands (Window.Hands.perform op hallow hp) hq hw ht

/-- An action that performs one task-list operation and queues its request. -/
theorem relays_tasks (op : TaskListOp) {l : TaskList} {r? : Option ListRequest}
    (hp : c.tasks.perform op = .ok (l, r?)) (hq : c'.queue = c.queue ++ r?.toList.map .fetchTasks)
    (hw : c'.window = c.window) (ht : c'.tasks = l) : Relays held c c' :=
  ⟨r?.toList.map .fetchTasks,
    ⟨hq, by rw [Command.tickets_map_fetchTasks, hw]; exact Window.Hands.refl held _,
      by rw [Command.requests_map_fetchTasks, ht]; exact TaskList.Issues.perform hp⟩⟩

/-- Queueing a command that is neither a load nor a list fetch. -/
theorem relays_issue {cmd : Command} (hticket : cmd.ticket? = none) (hrequest : cmd.request? = none) :
    Relays held c (c.issue cmd) :=
  ⟨[cmd], ⟨rfl, by rw [List.filterMap_cons, hticket]; exact Window.Hands.refl held _,
    by rw [List.filterMap_cons, hrequest]; exact TaskList.Issues.refl _⟩⟩

theorem Relays.trans (h₁ : Relays held c c₁) (h₂ : ∀ held', Relays held' c₁ c') :
    Relays held c c' := by
  obtain ⟨cmds, h₁⟩ := h₁
  obtain ⟨cmds', h₂⟩ := h₂ (held ++ cmds.filterMap Command.ticket?)
  exact ⟨cmds ++ cmds', h₁.trans h₂⟩

/-- A task-list operation whose request, if any, is queued. -/
theorem relays_issueList (op : TaskListOp) {l : TaskList} {r? : Option ListRequest}
    (hp : c.tasks.perform op = .ok (l, r?)) : Relays held c ({ c with tasks := l }.issueList r?) :=
  relays_tasks op hp (issueList_queue _ _) (issueList_window _ _) (issueList_tasks _ _)

/-- A window operation whose ticket, if any, is queued. -/
theorem relays_issueLoad (op : WindowOp) {w : Window} {t? : Option LoadTicket}
    (hallow : Caller.free.Allows held op) (hp : c.window.perform op = .ok (w, t?)) :
    Relays held c ({ c with window := w }.issueLoad t?) :=
  relays_window op hallow hp (issueLoad_queue _ _) (issueLoad_window _ _) (issueLoad_tasks _ _)

/-- A window operation that hands out no ticket, with nothing queued. -/
theorem relays_window_only (op : WindowOp) {w : Window} (hallow : Caller.free.Allows held op)
    (hp : c.window.perform op = .ok (w, none)) (hw : c'.window = w) (hq : c'.queue = c.queue)
    (ht : c'.tasks = c.tasks) : Relays held c c' :=
  relays_window op hallow hp (by simp [hq]) hw ht

/-! ### The task list -/

variable {k : Input.KeyPress}

theorem refreshTasks_relays (h : c.refreshTasks = .ok c') : Relays held c c' := by
  obtain ⟨⟨l, r⟩, hr, h⟩ := checked_bind_eq_ok h
  cases h
  exact relays_issueList .refresh
    (show c.tasks.perform .refresh = .ok (l, some r) by rw [TaskList.perform, hr]; rfl)

theorem nextPage_relays (h : c.nextPage = .ok c') : Relays held c c' := by
  obtain ⟨⟨l, r?⟩, hr, h⟩ := checked_bind_eq_ok h
  cases h
  exact relays_issueList .nextPage hr

theorem prevPage_relays (h : c.prevPage = .ok c') : Relays held c c' := by
  obtain ⟨⟨l, r?⟩, hr, h⟩ := checked_bind_eq_ok h
  cases h
  exact relays_issueList .prevPage hr

theorem cyclePageSize_relays {forward : Bool} (h : c.cyclePageSize forward = .ok c') :
    Relays held c c' := by
  obtain ⟨⟨l, r⟩, hr, h⟩ := checked_bind_eq_ok h
  cases h
  exact relays_tasks (.cyclePageSize forward)
    (show _ = Except.ok (l, some r) by rw [TaskList.perform, hr]; rfl) rfl rfl rfl

theorem cycleFilter_relays (h : c.cycleFilter = .ok c') : Relays held c c' := by
  obtain ⟨⟨l, r⟩, hr, h⟩ := checked_bind_eq_ok h
  cases h
  exact relays_tasks .cycleFilter
    (show _ = Except.ok (l, some r) by rw [TaskList.perform, hr]; rfl) rfl rfl rfl

theorem selectNext_relays : Relays held c { c with tasks := c.tasks.selectNext } :=
  relays_issueList .selectNext (show _ = Except.ok (_, none) from rfl)

theorem selectPrev_relays : Relays held c { c with tasks := c.tasks.selectPrev } :=
  relays_issueList .selectPrev (show _ = Except.ok (_, none) from rfl)

theorem cancelSelected_relays : Relays held c c.cancelSelected := by
  unfold cancelSelected
  split
  · exact relays_quiet rfl rfl rfl
  · split
    · exact relays_issue rfl rfl
    · exact relays_quiet rfl rfl rfl

theorem downloadSelected_relays : Relays held c c.downloadSelected := by
  unfold downloadSelected
  split
  · exact relays_quiet rfl rfl rfl
  · split
    · exact relays_quiet rfl rfl rfl
    · exact relays_issue rfl rfl

theorem submitCreate_relays : Relays held c c.submitCreate := by
  unfold submitCreate
  split
  · exact relays_issue rfl rfl
  · exact relays_quiet rfl rfl rfl

/-! ### The log window -/

theorem openLogs_relays (task : Nat) : Relays held c (c.openLogs task) :=
  relays_window (.openTask task) trivial rfl rfl rfl rfl

theorem openSelectedLogs_relays : Relays held c c.openSelectedLogs := by
  unfold openSelectedLogs
  split
  · exact openLogs_relays _
  · exact relays_quiet rfl rfl rfl

theorem closeLogs_relays : Relays held c c.closeLogs :=
  relays_window_only .close trivial rfl rfl rfl rfl

theorem reloadLogs_relays : Relays held c c.reloadLogs :=
  relays_issueLoad .reload trivial rfl

theorem submitRange_relays : Relays held c c.submitRange := by
  unfold submitRange
  dsimp only
  split
  · exact relays_quiet rfl rfl rfl
  · rename_i first last _
    split
    · rename_i w t hr
      exact relays_window (.loadRange first last) trivial
        (by simp only [Window.perform, hr]; rfl) rfl rfl rfl
    · rename_i w hr
      exact relays_window_only (.loadRange first last) trivial
        (by simp only [Window.perform, hr]; rfl) rfl rfl rfl
    · rename_i e hr
      -- a range the window refuses leaves it as it was
      exact relays_quiet rfl rfl rfl

theorem scrollLogs_relays {delta : Int} (h : c.scrollLogs delta = .ok c') : Relays held c c' := by
  obtain ⟨w₁, hw₁, h⟩ := checked_bind_eq_ok h
  obtain ⟨⟨w₂, t?⟩, hw₂, h⟩ := checked_bind_eq_ok h
  cases h
  have hscroll : c.window.Hands held [] w₁ :=
    Window.Hands.perform (.scroll delta) trivial (by rw [Window.perform, hw₁]; rfl)
  have hreach : w₁.Hands (held ++ []) t?.toList w₂ :=
    Window.Hands.perform .onScroll trivial hw₂
  have hboth : c.window.Hands held t?.toList w₂ := by simpa using hscroll.trans hreach
  exact relays_hands hboth (issueLoad_queue _ _) (issueLoad_window _ _) (issueLoad_tasks _ _)

theorem scrollLogsPage_relays {down : Bool} (h : c.scrollLogsPage down = .ok c') :
    Relays held c c' := by
  unfold scrollLogsPage at h
  dsimp only at h
  -- up or down, the page is a scroll by some count of lines
  split at h <;>
  · obtain ⟨delta, -, h⟩ := checked_bind_eq_ok h
    exact scrollLogs_relays h

theorem logsToTop_relays (h : c.logsToTop = .ok c') : Relays held c c' := by
  obtain ⟨⟨w, t?⟩, hw, h⟩ := checked_bind_eq_ok h
  cases h
  have htop : c.window.Hands held [] c.window.scrollToTop :=
    Window.Hands.perform .toTop trivial rfl
  have hreach : c.window.scrollToTop.Hands (held ++ []) t?.toList w :=
    Window.Hands.perform .onScroll trivial hw
  have hboth : c.window.Hands held t?.toList w := by simpa using htop.trans hreach
  exact relays_hands hboth (issueLoad_queue _ _) (issueLoad_window _ _) (issueLoad_tasks _ _)

theorem logsToBottom_relays (h : c.logsToBottom = .ok c') : Relays held c c' := by
  obtain ⟨w, hw, h⟩ := checked_bind_eq_ok h
  cases h
  exact relays_window_only .toBottom trivial (by rw [Window.perform, hw]; rfl) rfl rfl rfl

/-! ### Frames and replies -/

theorem onFrame_relays (h : c.onFrame = .ok c') : Relays held c c' := by
  unfold onFrame at h
  split at h
  · obtain ⟨⟨w, r⟩, hf, h⟩ := checked_bind_eq_ok h
    cases h
    exact relays_window_only .flush trivial (by rw [Window.perform, hf]; rfl) rfl rfl rfl
  · cases h
    exact relays_quiet rfl rfl rfl

theorem draw_relays {rows : Nat} (h : c.draw rows = .ok c') : Relays held c c' := by
  unfold draw at h
  split at h
  · obtain ⟨w, hw, h⟩ := checked_bind_eq_ok h
    cases h
    exact relays_window_only (.setRows rows) trivial (by rw [Window.perform, hw]; rfl)
      rfl rfl rfl
  · cases h
    exact relays_quiet rfl rfl rfl

theorem onLive_relays {ev : LiveEvent} (h : c.onLive ev = .ok c') : Relays held c c' := by
  cases ev with
  | connected =>
    cases h
    exact relays_quiet rfl rfl rfl
  | disconnected e =>
    cases h
    exact relays_quiet rfl rfl rfl
  | status u =>
    obtain ⟨⟨l, r?⟩, hs, h⟩ := checked_bind_eq_ok h
    cases h
    exact relays_issueList (.status u) hs
  | log task line =>
    obtain ⟨⟨w, b⟩, ha, h⟩ := checked_bind_eq_ok h
    cases h
    exact relays_window_only (.append task line) trivial (by rw [Window.perform, ha]; rfl)
      rfl rfl rfl

theorem onReply_relays {reply : Reply} (hans : (LoopEvent.reply reply).Answers held)
    (h : c.onReply reply = .ok c') : Relays held c c' := by
  cases reply with
  | tasksLoaded seq result =>
    cases h
    exact relays_issueList (.page seq result) (show _ = Except.ok (_, none) from rfl)
  | logsLoaded t result =>
    -- the only window operation a reply performs, on a ticket already handed out
    obtain ⟨⟨w, o⟩, hc, h⟩ := checked_bind_eq_ok h
    cases h
    exact relays_window_only (.complete t result) ⟨hans, trivial⟩
      (by rw [Window.perform, hc]; rfl) rfl rfl rfl
  | taskCreated result =>
    cases result with
    | ok t =>
      -- the form is reset and closed, then the list is fetched again
      have hrefresh : Relays held _ c' := refreshTasks_relays h
      exact hrefresh.of_same rfl rfl rfl
    | error e =>
      cases h
      exact relays_quiet rfl rfl rfl
  | taskCancelled task result =>
    cases result <;> cases h <;> exact relays_quiet rfl rfl rfl
  | logsDownloaded task result =>
    cases result <;> cases h <;> exact relays_quiet rfl rfl rfl
  | live ev => exact onLive_relays h

/-! ### Keys and the mouse -/

theorem editForm_relays : Relays held c (c.editForm k) := by
  unfold editForm
  split <;> exact relays_quiet rfl rfl rfl

theorem formKey_relays : Relays held c (c.formKey k) := by
  unfold formKey
  split
  · exact relays_quiet rfl rfl rfl
  · exact relays_quiet rfl rfl rfl
  · exact relays_quiet rfl rfl rfl
  · exact submitCreate_relays
  · exact editForm_relays

theorem rangeKey_relays : Relays held c (c.rangeKey k) := by
  unfold rangeKey
  split
  · exact relays_quiet rfl rfl rfl
  · exact submitRange_relays
  · exact relays_quiet rfl rfl rfl

/-- A key on the task list; one case per key of `taskKey`. -/
theorem taskKey_relays (h : c.taskKey k = .ok c') : Relays held c c' := by
  unfold taskKey at h
  split at h
  · exact relays_pure h (relays_quiet rfl rfl rfl)
  · exact relays_pure h (relays_quiet rfl rfl rfl)
  · exact relays_pure h selectNext_relays
  · exact relays_pure h selectNext_relays
  · exact relays_pure h selectPrev_relays
  · exact relays_pure h selectPrev_relays
  · exact nextPage_relays h
  · exact nextPage_relays h
  · exact prevPage_relays h
  · exact prevPage_relays h
  · exact cyclePageSize_relays h
  · exact cyclePageSize_relays h
  · exact cycleFilter_relays h
  · exact refreshTasks_relays h
  · exact relays_pure h openSelectedLogs_relays
  · exact relays_pure h openSelectedLogs_relays
  · exact relays_pure h (relays_quiet rfl rfl rfl)
  · exact relays_pure h cancelSelected_relays
  · exact relays_pure h cancelSelected_relays
  · exact relays_pure h downloadSelected_relays
  · exact relays_pure h (relays_quiet rfl rfl rfl)

/-- A key on the log window; one case per key of `logKey`. -/
theorem logKey_relays (h : c.logKey k = .ok c') : Relays held c c' := by
  unfold logKey at h
  split at h
  · exact relays_pure h closeLogs_relays
  · exact relays_pure h closeLogs_relays
  · exact relays_pure h (relays_quiet rfl rfl rfl)
  · exact scrollLogs_relays h
  · exact scrollLogs_relays h
  · exact scrollLogs_relays h
  · exact scrollLogs_relays h
  · split at h
    · exact scrollLogsPage_relays h
    · exact relays_pure h (relays_quiet rfl rfl rfl)
  · split at h
    · exact scrollLogsPage_relays h
    · exact relays_pure h (relays_quiet rfl rfl rfl)
  · exact scrollLogsPage_relays h
  · exact scrollLogsPage_relays h
  · exact logsToTop_relays h
  · exact logsToTop_relays h
  · exact logsToBottom_relays h
  · exact logsToBottom_relays h
  · exact relays_pure h reloadLogs_relays
  · exact relays_pure h (relays_quiet rfl rfl rfl)
  · exact relays_pure h (relays_quiet rfl rfl rfl)
  · exact relays_pure h (relays_quiet rfl rfl rfl)

theorem pressKey_relays (h : c.pressKey k = .ok c') : Relays held c c' := by
  unfold pressKey at h
  split at h
  · exact relays_pure h (relays_quiet rfl rfl rfl)
  split at h
  · exact relays_pure h (relays_quiet rfl rfl rfl)
  split at h
  · -- the help screen takes every key
    split at h <;> exact relays_pure h (relays_quiet rfl rfl rfl)
  -- otherwise the mode and the view decide
  split at h
  · exact relays_pure h formKey_relays
  · exact relays_pure h rangeKey_relays
  · exact taskKey_relays h
  · exact logKey_relays h

theorem useMouse_relays {m : Input.MouseAction} (h : c.useMouse m = .ok c') : Relays held c c' := by
  unfold useMouse at h
  split at h
  · exact relays_pure h (relays_quiet rfl rfl rfl)
  split at h
  · exact scrollLogs_relays h
  · exact scrollLogs_relays h
  · exact relays_pure h selectPrev_relays
  · exact relays_pure h selectNext_relays
  · exact relays_pure h (relays_quiet rfl rfl rfl)

/-- Every turn of the event loop relays what it hands out. -/
theorem step_relays {e : LoopEvent} (hans : e.Answers held) (h : c.step e = .ok c') :
    Relays held c c' := by
  cases e with
  | key k => exact pressKey_relays h
  | mouse m => exact useMouse_relays h
  | frame rows =>
    -- streamed lines are flushed, then the screen is drawn
    obtain ⟨c₁, hframe, hdraw⟩ := checked_bind_eq_ok h
    exact (onFrame_relays hframe).trans fun _ => draw_relays hdraw
  | reply r => exact onReply_relays hans h

/-! ## Runs of the event loop -/

/-- Turns of the event loop from `c₀`: the events taken, the commands drained
so far, in order, and the console reached. The queue may be drained between any
two turns; a log load answers a command already drained. -/
inductive Run (c₀ : Console) : List LoopEvent → List Command → Console → Prop
  | nil : Run c₀ [] [] c₀
  | step {evs : List LoopEvent} {sent : List Command} {c c' : Console} {e : LoopEvent} :
      Run c₀ evs sent c → e.Answers (sent.filterMap Command.ticket?) → c.step e = .ok c' →
      Run c₀ (evs ++ [e]) sent c'
  | drain {evs : List LoopEvent} {sent : List Command} {c : Console} :
      Run c₀ evs sent c → Run c₀ evs (sent ++ c.drain.1) c.drain.2

/-- Everything the window and the task list of a console for `s` handed out
since they were new is, in order, what was drained and what waits in the queue. -/
structure Relayed (s : Settings) (sent : List Command) (c : Console) : Prop where
  window : (Window.new s.viewport).Hands [] ((sent ++ c.queue).filterMap Command.ticket?) c.window
  tasks : (TaskList.new s.pageSize).Issues ((sent ++ c.queue).filterMap Command.request?) c.tasks

variable {s : Settings} {sent : List Command}

theorem Relayed.follow {cmds : List Command} (hr : Relayed s sent c)
    (h : Follows ((sent ++ c.queue).filterMap Command.ticket?) c c' cmds) : Relayed s sent c' := by
  have hall : sent ++ c'.queue = (sent ++ c.queue) ++ cmds := by
    rw [h.queue, List.append_assoc]
  constructor
  · rw [hall, List.filterMap_append]
    exact hr.window.trans h.window
  · rw [hall, List.filterMap_append]
    exact hr.tasks.trans h.tasks

theorem Relayed.drain (hr : Relayed s sent c) : Relayed s (sent ++ c.drain.1) c.drain.2 := by
  -- draining moves the queue to the commands handed over, and nothing else
  have hall : sent ++ c.drain.1 ++ c.drain.2.queue = sent ++ c.queue := List.append_nil _
  constructor
  · rw [hall]
    exact hr.window
  · rw [hall]
    exact hr.tasks

theorem relayed_start {c₀ : Console} (h : Console.start s = .ok c₀) : Relayed s [] c₀ := by
  -- before the first page is asked for, nothing was handed out
  have hnew : Relayed s [] { tasks := TaskList.new s.pageSize, window := Window.new s.viewport } :=
    ⟨Window.Hands.refl [] _, TaskList.Issues.refl _⟩
  obtain ⟨cmds, hf⟩ := refreshTasks_relays h
  exact hnew.follow hf

theorem Run.relayed {c₀ : Console} {evs : List LoopEvent} (hstart : Console.start s = .ok c₀)
    (h : Run c₀ evs sent c) : Relayed s sent c := by
  induction h with
  | nil => exact relayed_start hstart
  | @step _ sent c c' e _ hans hstep ih =>
    -- the service answers only tickets it was handed, and those were handed out
    have hsub : sent.filterMap Command.ticket? ⊆ (sent ++ c.queue).filterMap Command.ticket? := by
      rw [List.filterMap_append]
      exact List.subset_append_left _ _
    obtain ⟨cmds, hf⟩ := step_relays (hans.mono hsub) hstep
    exact ih.follow hf
  | drain _ ih => exact ih.drain

/-- From the start of a console, the fetches drained or still queued are, in order,
every ticket and list request handed out; the load in flight is among them. -/
theorem console_relays_every_request {s : Settings} {c₀ c : Console} {evs : List LoopEvent}
    {sent : List Command} (hstart : Console.start s = .ok c₀) (h : Run c₀ evs sent c) :
    (∃ ops, Session.Run Caller.free (Session.start s.viewport) ops
      ⟨c.window, (sent ++ c.queue).filterMap Command.ticket?⟩) ∧
    (∃ ops, TaskList.Run (TaskList.new s.pageSize) ops
      ((sent ++ c.queue).filterMap Command.request?) c.tasks) ∧
    (c.window.isLoading = true →
      ∃ t, c.window.inFlight = some t ∧
        (Command.fetchLogs t ∈ sent ∨ Command.fetchLogs t ∈ c.queue)) := by
  obtain ⟨⟨ops, hwindow⟩, htasks⟩ := h.relayed hstart
  refine ⟨⟨ops, hwindow⟩, htasks, fun hload => ?_⟩
  obtain ⟨t, ht⟩ := Option.isSome_iff_exists.mp hload
  -- the ticket in flight was handed out, so it is among the commands
  have hheld := hwindow.inFlightHeld (fun _ h => by cases h) t ht
  exact ⟨t, ht, List.mem_append.mp (Command.fetchLogs_mem_of_mem_tickets hheld)⟩

/-- The first page is fetched and drained, lists task 7, whose logs are opened
with Enter and drawn: the tail load is in flight and its ticket is queued. -/
theorem console_relays_opened_logs :
    let c₀ : Console :=
      { tasks := { pageSize := 10, seq := 1 }, window := Window.new ({} : Settings).viewport
        queue := [.fetchTasks ⟨1, ⟨0, 10, none⟩⟩] }
    let task : Task := ⟨7, "build", "make", .completed, "", 0, 0, 0⟩
    ∃ c, Console.start {} = .ok c₀ ∧
      Run c₀ [.reply (.tasksLoaded 1 (.ok ⟨[task], 1⟩)), .key ⟨.enter, false, false, false⟩,
        .frame 20] c₀.queue c ∧
      c.window.inFlight = some ⟨1, 7, .tail, 0, 0⟩ ∧ c.queue = [.fetchLogs ⟨1, 7, .tail, 0, 0⟩] ∧
      (∃ ops, Session.Run Caller.free (Session.start ({} : Settings).viewport) ops
        ⟨c.window, (c₀.queue ++ c.queue).filterMap Command.ticket?⟩) ∧
      (∃ ops, TaskList.Run (TaskList.new ({} : Settings).pageSize) ops
        ((c₀.queue ++ c.queue).filterMap Command.request?) c.tasks) ∧
      (c.window.isLoading = true →
        ∃ t, c.window.inFlight = some t ∧
          (Command.fetchLogs t ∈ c₀.queue ∨ Command.fetchLogs t ∈ c.queue)) := by
  intro c₀ task
  have hstart : Console.start {} = .ok c₀ := rfl
  have hrun := ((((Run.nil : Run c₀ [] [] c₀).drain.step
    (e := .reply (.tasksLoaded 1 (.ok ⟨[task], 1⟩))) trivial rfl).step
    (e := .key ⟨.enter, false, false, false⟩) trivial rfl).step (e := .frame 20) trivial rfl)
  exact ⟨_, hstart, hrun, rfl, rfl, console_relays_every_request hstart hrun⟩

end Console

end TaskConsole
