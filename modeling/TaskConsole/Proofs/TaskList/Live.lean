import TaskConsole.Proofs.TaskList.Paging

/-! The task list beside a service that pushes status changes and answers late: every
reachable state is `Consistent`, and a settled status stays unless an old snapshot
overwrites it (`status_kept_unless_patch_overwritten`). -/

namespace TaskConsole

/-! ## The task list between two channels -/

/-- Operations the user performs on the list; responses and live updates come
from the channels instead. -/
def TaskListOp.ByUser : TaskListOp → Prop
  | .status _ | .page _ _ => False
  | _ => True

/-- The status the list shows for a task: that of the first listed task with its
id. -/
def TaskList.statusOf (l : TaskList) (x : Nat) : Option TaskStatus := (l.find? x).map (·.status)

/-- A result that lists every task with the status `server` gives it: a snapshot
of the service, or a failure. -/
def Snapshot (server : Nat → TaskStatus) (result : Except LoadError TaskPage) : Prop :=
  ∀ page, result = .ok page → ∀ t ∈ page.tasks, t.status = server t.id

/-- The task list fed by the service: the list, the service's statuses, the events in
flight, the requests issued and the answers sent, which may arrive again. -/
structure LiveList where
  list : TaskList
  server : Nat → TaskStatus
  events : List StatusUpdate
  requests : List ListRequest
  replies : List (Nat × Except LoadError TaskPage)

/-- One move of one party: the user, the service changing a status or answering a
request, or a channel delivering an event or an answer. -/
inductive LiveAction where
  | user (op : TaskListOp)
  | change (u : StatusUpdate)
  | answer (r : ListRequest) (result : Except LoadError TaskPage)
  | event
  | reply (seq : Nat) (result : Except LoadError TaskPage)

namespace LiveList

/-- A new list of page size `n` before anything is asked, with the service's
statuses `server`. -/
def start (n : Nat) (server : Nat → TaskStatus) : LiveList :=
  ⟨TaskList.new n, server, [], [], []⟩

/-- One move as `LiveAction` describes it: answers go to issued requests with the
statuses of the moment, and events reach the list oldest first. -/
inductive Step : LiveList → LiveAction → LiveList → Prop
  | user {s : LiveList} {op : TaskListOp} {l : TaskList} {r? : Option ListRequest} :
      op.ByUser → s.list.perform op = .ok (l, r?) →
      Step s (.user op) { s with list := l, requests := s.requests ++ r?.toList }
  | change {s : LiveList} {u : StatusUpdate} :
      Step s (.change u)
        { s with server := fun x => if x = u.task then u.status else s.server x,
                 events := s.events ++ [u] }
  | answer {s : LiveList} {r : ListRequest} {result : Except LoadError TaskPage} :
      r ∈ s.requests → Snapshot s.server result →
      Step s (.answer r result) { s with replies := s.replies ++ [(r.seq, result)] }
  | event {s : LiveList} {u : StatusUpdate} {rest : List StatusUpdate} {l : TaskList}
      {r? : Option ListRequest} :
      s.events = u :: rest → s.list.applyStatus u = .ok (l, r?) →
      Step s .event { s with list := l, events := rest, requests := s.requests ++ r?.toList }
  | reply {s : LiveList} {seq : Nat} {result : Except LoadError TaskPage} :
      (seq, result) ∈ s.replies →
      Step s (.reply seq result) { s with list := (s.list.applyPage seq result).1 }

/-- Moves made from `s`, in order, and the state they reach. -/
inductive Run : LiveList → List LiveAction → LiveList → Prop
  | nil {s : LiveList} : Run s [] s
  | snoc {s s₁ s₂ : LiveList} {acts : List LiveAction} {a : LiveAction} :
      Run s acts s₁ → Step s₁ a s₂ → Run s (acts ++ [a]) s₂

end LiveList


namespace TaskList

variable {l l' : TaskList}

/-- A live update moves the sequence number on as any operation does. -/
theorem applyStatus_seq {u : StatusUpdate} {r? : Option ListRequest}
    (h : l.applyStatus u = .ok (l', r?)) : l.seq ≤ l'.seq ∧ ∀ r ∈ r?, r.seq = l'.seq :=
  perform_seq (show l.perform (.status u) = .ok (l', r?) from h)

/-- A response leaves the sequence number as it is. -/
theorem applyPage_seq (l : TaskList) (seq : Nat) (result : Except LoadError TaskPage) :
    (l.applyPage seq result).1.seq = l.seq :=
  congrArg ListRequest.seq (applyPage_request l seq result)

theorem statusOf_of_tasks {x : Nat} (h : l'.tasks = l.tasks) : l'.statusOf x = l.statusOf x := by
  unfold statusOf find?
  rw [h]

end TaskList

namespace LiveList

variable {s s' s₁ s₂ : LiveList} {a : LiveAction} {acts : List LiveAction}

/-- What every reachable state keeps: requests and answers carry sequence
numbers the list has already issued, and the service's status of a task is
the one of the last event for it still in flight. -/
structure Consistent (s : LiveList) : Prop where
  requests_le : ∀ r ∈ s.requests, r.seq ≤ s.list.seq
  replies_le : ∀ p ∈ s.replies, p.1 ≤ s.list.seq
  server_latest : ∀ x, ∀ e ∈ (s.events.filter (·.task == x)).getLast?, s.server x = e.status

theorem consistent_start (n : Nat) (server : Nat → TaskStatus) : Consistent (start n server) :=
  ⟨(fun _ h => by cases h), (fun _ h => by cases h), (fun _ _ h => by cases h)⟩

/-- A list operation that moves the sequence number on keeps every request and
answer within it. -/
theorem Consistent.issue (hc : Consistent s) {op : TaskListOp} {l : TaskList}
    {r? : Option ListRequest} (hp : s.list.perform op = .ok (l, r?)) :
    (∀ r ∈ s.requests ++ r?.toList, r.seq ≤ l.seq) ∧
      ∀ p ∈ s.replies, p.1 ≤ l.seq := by
  obtain ⟨hle, hnew⟩ := TaskList.perform_seq hp
  refine ⟨fun r hr => ?_, fun p hp => Nat.le_trans (hc.replies_le p hp) hle⟩
  rcases List.mem_append.mp hr with hold | hissued
  · exact Nat.le_trans (hc.requests_le r hold) hle
  · exact Nat.le_of_eq (hnew r (Option.mem_toList.mp hissued))

/-- Pushing an event makes its status the service's for its task, and the last
in flight for it. -/
theorem Consistent.change (hc : Consistent s) (u : StatusUpdate) (x : Nat) :
    ∀ e ∈ ((s.events ++ [u]).filter (·.task == x)).getLast?,
      (if x = u.task then u.status else s.server x) = e.status := by
  intro e he
  rw [List.filter_append, List.filter_cons, List.filter_nil] at he
  by_cases hx : x = u.task
  · -- the pushed event is the last one for its task
    rw [if_pos hx, if_pos (beq_iff_eq.mpr hx.symm), List.getLast?_concat] at *
    exact congrArg StatusUpdate.status (Option.mem_some_iff.mp he)
  · rw [if_neg hx, if_neg (by simpa using Ne.symm hx), List.append_nil] at *
    exact hc.server_latest x e he

/-- Delivering the oldest event leaves the last in flight for each task as it was,
if there is one. -/
theorem getLast?_filter_tail {p : StatusUpdate → Bool} {u : StatusUpdate}
    {rest : List StatusUpdate} {e : StatusUpdate} (he : e ∈ (rest.filter p).getLast?) :
    e ∈ ((u :: rest).filter p).getLast? := by
  rw [List.filter_cons]
  split
  · rw [List.getLast?_cons, Option.mem_def.mp he]
    rfl
  · exact he

theorem Consistent.step (hc : Consistent s) (hs : Step s a s') : Consistent s' := by
  cases hs with
  | user _ hp =>
    obtain ⟨hreq, hrep⟩ := hc.issue hp
    exact ⟨hreq, hrep, hc.server_latest⟩
  | change => exact ⟨hc.requests_le, hc.replies_le, hc.change _⟩
  | answer hr _ =>
    -- an answer is tagged with a request's number, which the list has issued
    refine ⟨hc.requests_le, fun p hp => ?_, hc.server_latest⟩
    rcases List.mem_append.mp hp with hold | hnew
    · exact hc.replies_le p hold
    · rw [List.mem_singleton.mp hnew]
      exact hc.requests_le _ hr
  | @event u rest l r? hev hp =>
    obtain ⟨hreq, hrep⟩ := hc.issue (show s.list.perform (.status u) = .ok (l, r?) from hp)
    -- the last event in flight for a task is still the last once the oldest is taken
    refine ⟨hreq, hrep, fun x e he => ?_⟩
    have hlast := getLast?_filter_tail (u := u) he
    rw [← hev] at hlast
    exact hc.server_latest x e hlast
  | @reply seq result _ =>
    have hseq := TaskList.applyPage_seq s.list seq result
    exact ⟨fun r hr => hseq ▸ hc.requests_le r hr, fun p hp => hseq ▸ hc.replies_le p hp,
      hc.server_latest⟩

theorem Run.consistent (h : Run s acts s') (hc : Consistent s) : Consistent s' := by
  induction h with
  | nil => exact hc
  | snoc _ hs ih => exact ih.step hs

end LiveList

/-- A result that lists task `x`, if at all, with status `status`. -/
def ShowsAt (x : Nat) (status : TaskStatus) (result : Except LoadError TaskPage) : Prop :=
  ∀ page, result = .ok page → ∀ t ∈ page.tasks, t.id = x → t.status = status

namespace TaskList

variable {l : TaskList} {x : Nat} {status : TaskStatus}

/-- A page that shows task `x` with `status`, if at all, leaves the list showing
that status or none. -/
theorem statusOf_of_page {page : TaskPage} (h : ShowsAt x status (.ok page)) {l' : TaskList}
    (htasks : l'.tasks = page.tasks) : l'.statusOf x = none ∨ l'.statusOf x = some status := by
  unfold statusOf find?
  rw [htasks]
  cases hfind : page.tasks.find? (·.id == x) with
  | none => exact .inl rfl
  | some t =>
    have hid : t.id = x := by simpa using List.find?_some hfind
    exact .inr (congrArg some (h page rfl t (List.mem_of_find?_eq_some hfind) hid))

/-- After a live update, the list shows the update's status for its task, or
none. -/
theorem statusOf_patched_self {u : StatusUpdate} {tasks : List Task} (h : Patched u l.tasks tasks)
    {l' : TaskList} (htasks : l'.tasks = tasks) :
    l'.statusOf u.task = none ∨ l'.statusOf u.task = some u.status := by
  unfold statusOf find?
  rw [htasks, h.find_self]
  cases l.tasks.find? (·.id == u.task) with
  | none => exact .inl rfl
  | some t => exact .inr rfl

/-- A live update leaves the status shown for every other task as it was. -/
theorem statusOf_patched_other {u : StatusUpdate} {tasks : List Task} (h : Patched u l.tasks tasks)
    (hx : x ≠ u.task) {l' : TaskList} (htasks : l'.tasks = tasks) :
    l'.statusOf x = l.statusOf x := by
  unfold statusOf find?
  rw [htasks, h.find_other x hx]

/-- The tasks a live update leaves: the patched ones, or those of a refresh after it. -/
theorem applyStatus_tasks {u : StatusUpdate} {l' : TaskList} {r? : Option ListRequest}
    (h : l.applyStatus u = .ok (l', r?)) :
    ∃ tasks, Patched u l.tasks tasks ∧ l'.tasks = tasks := by
  obtain ⟨tasks, hpatch, ⟨-, rfl, -⟩ | ⟨r, -, hr⟩⟩ := applyStatus_eq_ok h
  · exact ⟨tasks, hpatch, rfl⟩
  · cases refresh_fields hr
    exact ⟨tasks, hpatch, rfl⟩

end TaskList

namespace LiveList

variable {s s' s₁ s₂ : LiveList} {a : LiveAction} {acts : List LiveAction} {x : Nat}
  {status : TaskStatus} {seq₀ : Nat}

/-- The list's sequence number never goes back. -/
theorem Step.seq_le (hs : Step s a s') : s.list.seq ≤ s'.list.seq := by
  cases hs with
  | user _ hp => exact (TaskList.perform_seq hp).1
  | change => exact Nat.le_refl _
  | answer _ _ => exact Nat.le_refl _
  | @event u rest l r? _ hp => exact (TaskList.applyStatus_seq hp).1
  | @reply seq result _ =>
    exact Nat.le_of_eq (TaskList.applyPage_seq s.list seq result).symm

theorem Run.seq_le (h : Run s acts s') : s.list.seq ≤ s'.list.seq := by
  induction h with
  | nil => exact Nat.le_refl _
  | snoc _ hs ih => exact Nat.le_trans ih hs.seq_le

/-- Task `x` had its last change, to `status`, applied at sequence number `seq₀`:
the service, every later answer and the list agree on `status`. -/
structure Settled (x : Nat) (status : TaskStatus) (seq₀ : Nat) (s : LiveList) : Prop where
  server_eq : s.server x = status
  quiet : ∀ e ∈ s.events, e.task ≠ x
  fresh : ∀ p ∈ s.replies, seq₀ < p.1 → ShowsAt x status p.2
  shows : s.list.statusOf x = none ∨ s.list.statusOf x = some status

/-- One move keeps task `x` settled, as long as it does not change `x` again and
an answer it hands to the list for the latest request answers one issued since
`x` settled. -/
theorem Settled.step (hset : Settled x status seq₀ s) (hs : Step s a s')
    (hchange : ∀ v, a = .change v → v.task ≠ x)
    (hfresh : ∀ result, a = .reply s.list.seq result → seq₀ < s.list.seq) :
    Settled x status seq₀ s' := by
  cases hs with
  | @user op l r? hop hp =>
    -- the user's operations leave the tasks alone
    have htasks : l.tasks = s.list.tasks := by
      rcases (TaskList.perform_frame hp).2.2 with htasks | ⟨u, rfl⟩ | ⟨seq, result, rfl⟩
      · exact htasks
      · exact hop.elim
      · exact hop.elim
    exact ⟨hset.server_eq, hset.quiet, hset.fresh,
      TaskList.statusOf_of_tasks htasks ▸ hset.shows⟩
  | @change u =>
    have hu : u.task ≠ x := hchange u rfl
    refine ⟨by simpa [Ne.symm hu] using hset.server_eq, fun e he => ?_, hset.fresh, hset.shows⟩
    rcases List.mem_append.mp he with hold | hnew
    · exact hset.quiet e hold
    · rw [List.mem_singleton.mp hnew]
      exact hu
  | @answer r result _ hsnap =>
    -- a snapshot taken now shows the status the service keeps
    refine ⟨hset.server_eq, hset.quiet, fun p hp hlt => ?_, hset.shows⟩
    rcases List.mem_append.mp hp with hold | hnew
    · exact hset.fresh p hold hlt
    · rw [List.mem_singleton.mp hnew]
      intro page hpage t ht hid
      rw [hsnap page hpage t ht, hid, hset.server_eq]
  | @event u rest l r? hev hp =>
    have hu : u.task ≠ x := hset.quiet u (by rw [hev]; exact List.mem_cons_self)
    obtain ⟨tasks, hpatch, htasks⟩ := TaskList.applyStatus_tasks hp
    refine ⟨hset.server_eq,
      fun e he => hset.quiet e (by rw [hev]; exact List.mem_cons_of_mem _ he), hset.fresh, ?_⟩
    rw [TaskList.statusOf_patched_other hpatch (Ne.symm hu) htasks]
    exact hset.shows
  | @reply seq result hmem =>
    refine ⟨hset.server_eq, hset.quiet, hset.fresh, ?_⟩
    rcases TaskList.applyPage_cases s.list seq result with heq | ⟨hseq, page, rfl, heq⟩ |
        ⟨-, e, -, heq⟩
    · rw [heq]
      exact hset.shows
    · -- the answer is taken, so it answers the latest request, issued since `x` settled
      subst hseq
      exact TaskList.statusOf_of_page (hset.fresh _ hmem (hfresh _ rfl)) (by rw [heq])
    · rw [heq]
      exact hset.shows

/-- Task `x` stays settled along a run that does not change it and that hands the
list no answer to the request that was the latest when `x` settled, unless a
newer request was issued by then. -/
theorem Run.settled (h : Run s₂ acts s) (hset : Settled x status seq₀ s₂)
    (hle : seq₀ ≤ s₂.list.seq)
    (hchange : ∀ v, .change v ∈ acts → v.task ≠ x)
    (hfence : seq₀ < s₂.list.seq ∨ ∀ result, .reply seq₀ result ∉ acts) :
    Settled x status seq₀ s := by
  -- on the run, each move kept by `Settled.step` once its two conditions are met
  induction h with
  | nil => exact hset
  | @snoc s₁ s' acts a hrun hs ih =>
    have hmid := ih (fun v hv => hchange v (List.mem_append_left _ hv))
      (hfence.imp_right fun hnone result hr => hnone result (List.mem_append_left _ hr))
    have hlast : a ∈ acts ++ [a] := List.mem_append_right _ (List.mem_singleton_self _)
    refine hmid.step hs (fun v hv => hchange v (hv ▸ hlast)) ?_
    intro result ha
    have hmono := hrun.seq_le
    rcases hfence with hlt | hnone
    · omega
    · -- an answer to the request that was latest when `x` settled is not among the moves
      have hne : s₁.list.seq ≠ seq₀ := by
        intro heq
        exact hnone result (by rw [← heq, ← ha]; exact hlast)
      omega

variable {acts' : List LiveAction} {u : StatusUpdate}

/-- The event for a task's last change, delivered, settles the task at that
change's status, with the list at its sequence number before the event. -/
theorem settled_of_event (hc : Consistent s₁) (hhead : s₁.events.head? = some u)
    (hstep : Step s₁ .event s₂) (hlatest : ∀ e ∈ s₂.events, e.task ≠ u.task) :
    Settled u.task u.status s₁.list.seq s₂ ∧ s₁.list.seq ≤ s₂.list.seq := by
  cases hstep with
  | @event v rest l r? hev hp =>
    rw [hev] at hhead
    cases hhead
    -- no later event for the task is in flight, so the service holds this one's status
    have hrest : rest.filter (·.task == u.task) = [] :=
      List.filter_eq_nil_iff.mpr fun e he => by simpa using hlatest e he
    have hserver : s₁.server u.task = u.status := by
      apply hc.server_latest u.task u
      rw [hev, List.filter_cons, if_pos (by simp), hrest]
      rfl
    obtain ⟨tasks, hpatch, htasks⟩ := TaskList.applyStatus_tasks hp
    refine
      ⟨⟨hserver, hlatest, fun p hp hlt => ?_, TaskList.statusOf_patched_self hpatch htasks⟩,
      (TaskList.applyStatus_seq hp).1⟩
    exact absurd (hc.replies_le p hp) (by omega)

/-- Once a task's latest change is applied, the list never shows an older status for
it, unless an answer to the request then latest, taken before the change, arrives. -/
theorem status_kept_unless_patch_overwritten {n : Nat} {server : Nat → TaskStatus}
    (hrun : Run (start n server) acts s₁) (hhead : s₁.events.head? = some u)
    (hstep : Step s₁ .event s₂) (hlatest : ∀ e ∈ s₂.events, e.task ≠ u.task)
    (hrest : Run s₂ acts' s) (hsame : ∀ v, .change v ∈ acts' → v.task ≠ u.task)
    (hfence : s₁.list.seq < s₂.list.seq ∨ ∀ result, .reply s₁.list.seq result ∉ acts') :
    ∀ status, s.list.statusOf u.task = some status → status = s.server u.task := by
  have hc := hrun.consistent (consistent_start n server)
  obtain ⟨hset, hle⟩ := settled_of_event hc hhead hstep hlatest
  have hfinal := hrest.settled hset hle hsame hfence
  intro status hshown
  rcases hfinal.shows with hnone | hsome
  · rw [hnone] at hshown
    cases hshown
  · rw [hsome] at hshown
    cases hshown
    exact hfinal.server_eq.symm

/-- Task 1 starts running before the answer listing it queued arrives; its event
asks for the page again, so the old answer is refused. -/
theorem status_kept_after_refreshing_update :
    let queued : Task := ⟨1, "build", "make", .queued, "", 0, 0, 0⟩
    let u : StatusUpdate := ⟨1, .running, none, none⟩
    ∃ s₁ s₂ s,
      Run (start 10 fun _ => .queued)
        ([] ++ [.user .refresh] ++ [.answer ⟨1, ⟨0, 10, none⟩⟩ (.ok ⟨[queued], 1⟩)] ++
          [.change u]) s₁ ∧
      s₁.events.head? = some u ∧ Step s₁ .event s₂ ∧
      (∀ e ∈ s₂.events, e.task ≠ u.task) ∧
      Run s₂ ([] ++ [.reply 1 (.ok ⟨[queued], 1⟩)]) s ∧
      (∀ v, .change v ∈ ([] ++ [.reply 1 (.ok ⟨[queued], 1⟩)] : List LiveAction) →
        v.task ≠ u.task) ∧
      (s₁.list.seq < s₂.list.seq ∨
        ∀ result, .reply s₁.list.seq result ∉
          ([] ++ [.reply 1 (.ok ⟨[queued], 1⟩)] : List LiveAction)) ∧
      ∀ status, s.list.statusOf u.task = some status → status = s.server u.task := by
  intro queued u
  have hsnap : Snapshot (fun _ => .queued) (.ok ⟨[queued], 1⟩) := by
    intro page hpage t ht
    cases hpage
    rw [List.mem_singleton.mp ht]
  have hrun : Run (start 10 fun _ => .queued)
      ([] ++ [.user .refresh] ++ [.answer ⟨1, ⟨0, 10, none⟩⟩ (.ok ⟨[queued], 1⟩)] ++
        [.change u]) _ :=
    ((Run.nil.snoc (.user (by trivial) rfl)).snoc
      (.answer (List.mem_singleton_self _) hsnap)).snoc .change
  have hsame : ∀ v, .change v ∈ ([] ++ [.reply 1 (.ok ⟨[queued], 1⟩)] : List LiveAction) →
      v.task ≠ u.task := fun v hv => by simp at hv
  refine ⟨_, _, _, hrun, rfl, .event rfl rfl, (fun _ he => by cases he),
    Run.nil.snoc (.reply (List.mem_singleton_self _)), hsame, .inl (by decide), ?_⟩
  exact status_kept_unless_patch_overwritten hrun rfl (.event rfl rfl) (fun _ he => by cases he)
    (Run.nil.snoc (.reply (List.mem_singleton_self _))) hsame (.inl (by decide))


/-- A task's change is patched in place while an older snapshot is on its way; the
snapshot then shows the task queued again. -/
theorem older_reply_overwrites_patched_status :
    let queued : Task := ⟨1, "build", "make", .queued, "", 0, 0, 0⟩
    let u : StatusUpdate := ⟨1, .running, none, none⟩
    ∃ s₁ s₂ s,
      Run (start 10 fun _ => .queued)
        ([] ++ [.user .refresh] ++ [.answer ⟨1, ⟨0, 10, none⟩⟩ (.ok ⟨[queued], 1⟩)] ++
          [.reply 1 (.ok ⟨[queued], 1⟩)] ++ [.user .refresh] ++
          [.answer ⟨2, ⟨0, 10, none⟩⟩ (.ok ⟨[queued], 1⟩)] ++ [.change u]) s₁ ∧
      s₁.events.head? = some u ∧ Step s₁ .event s₂ ∧
      (∀ e ∈ s₂.events, e.task ≠ u.task) ∧
      s₂.list.statusOf 1 = some .running ∧
      Run s₂ ([] ++ [.reply 2 (.ok ⟨[queued], 1⟩)]) s ∧
      s.list.statusOf 1 = some .queued ∧ s.server 1 = .running := by
  intro queued u
  have hsnap : Snapshot (fun _ => .queued) (.ok ⟨[queued], 1⟩) := by
    intro page hpage t ht
    cases hpage
    rw [List.mem_singleton.mp ht]
  have hrun : Run (start 10 fun _ => .queued)
      ([] ++ [.user .refresh] ++ [.answer ⟨1, ⟨0, 10, none⟩⟩ (.ok ⟨[queued], 1⟩)] ++
        [.reply 1 (.ok ⟨[queued], 1⟩)] ++ [.user .refresh] ++
        [.answer ⟨2, ⟨0, 10, none⟩⟩ (.ok ⟨[queued], 1⟩)] ++ [.change u]) _ :=
    ((((((Run.nil.snoc (.user (by trivial) rfl)).snoc
      (.answer (List.mem_singleton_self _) hsnap)).snoc
      (.reply (List.mem_singleton_self _))).snoc (.user (by trivial) rfl)).snoc
      (.answer (List.mem_append_right _ (List.mem_singleton_self _)) hsnap)).snoc .change)
  refine ⟨_, _, _, hrun, rfl, .event rfl rfl, ?_, rfl,
    Run.nil.snoc (.reply (List.mem_append_right _ (List.mem_singleton_self _))), rfl, rfl⟩
  intro e he
  cases he

end LiveList

end TaskConsole
