import TaskConsole.Proofs.Event.FrameRead

/-! What an event of the live stream comes to (`decodeFrame_outcomes`); a frame is read
by name from an object and by position from an array, so `[1]` is a keepalive.
Main statement: `decodeFrame_delivers_domain_frames`. -/

namespace TaskConsole

open Json

variable {eventType data : String}

/-! ## What an event comes to -/

/-- The frame a message's data holds: the data trimmed and without its leading
`data: ` prefixes, read as a frame. -/
abbrev readFrame (data : String) : Decoded Frame :=
  Reader.decode (Reader.structure_ Reader.frameShape) (stripDataPrefix (Text.trim data))

/-- What a message comes to once its data is read as a frame: nothing for a keepalive,
and otherwise the status change or log line its kind says, or a decode error. -/
def frameEvent (frame : Frame) : Except StreamError (Option LiveEvent) := do
  if frame.ping.isSome then return none
  let some kind := frame.kind.bind Numeric.value
    | throw (.decode "missing event type")
  let some task := frame.task.bind Numeric.value
    | throw (.decode "missing task_id")
  let some value := frame.value
    | throw (.decode "missing value")
  if kind == 1 then
    return some (.status (← streamDecoded (StatusValue.ofJson task value)))
  else if kind == 2 then
    let line ← streamDecoded (LogValue.ofJson value)
    if line.number == 0 then throw (.decode "line_number must be at least 1")
    return some (.log task line)
  else throw (.decode ("unknown event type " ++ toString kind))

/-- What a frame without a ping can come to: a status change, a log line numbered from 1,
or a decode error. -/
def Carried (r : Except StreamError (Option LiveEvent)) : Prop :=
  (∃ u, r = .ok (some (.status u))) ∨ (∃ n l, r = .ok (some (.log n l)) ∧ 1 ≤ l.number) ∨
    ∃ m, r = .error (.decode m)

theorem decodeFrame_connect (data : String) : decodeFrame "connect" data = .ok (some .connected) := rfl

/-- Events of a type other than the connection, the empty one and `message` are not for
subscribers. -/
theorem decodeFrame_foreign (hc : eventType ≠ "connect") (he : eventType ≠ "") (hm : eventType ≠ "message") :
    decodeFrame eventType data = .ok none := by
  unfold decodeFrame
  rw [if_neg (by simpa using hc), if_pos (by simp [he, hm])]
  rfl

/-- A message whose data is no frame fails with the reader's error. -/
theorem decodeFrame_read_error {e : Error} (ht : eventType = "" ∨ eventType = "message")
    (hf : readFrame data = .error e) : decodeFrame eventType data = .error (.decode e.text) := by
  unfold decodeFrame
  rw [if_neg (by rcases ht with rfl | rfl <;> decide), if_neg (by rcases ht with rfl | rfl <;> decide)]
  dsimp only
  rw [show Reader.decode (Reader.structure_ Reader.frameShape) (stripDataPrefix (Text.trim data)) = .error e
    from hf]
  rfl

/-- A message whose data is a frame comes to what the frame does. -/
theorem decodeFrame_read {f : Frame} (ht : eventType = "" ∨ eventType = "message")
    (hf : readFrame data = .ok f) : decodeFrame eventType data = frameEvent f := by
  unfold decodeFrame
  rw [if_neg (by rcases ht with rfl | rfl <;> decide), if_neg (by rcases ht with rfl | rfl <;> decide)]
  dsimp only
  rw [show Reader.decode (Reader.structure_ Reader.frameShape) (stripDataPrefix (Text.trim data)) = .ok f
    from hf]
  rfl

/-- A decoding result as a stream failure fails only with a decode error. -/
theorem streamDecoded_error {α : Type} {x : Decoded α} {e : StreamError} (h : streamDecoded x = .error e) :
    ∃ m, Except.error (ε := StreamError) (α := Option LiveEvent) e = .error (.decode m) := by
  cases x with
  | ok a => cases h
  | error e' => cases h; exact ⟨_, rfl⟩

theorem frameEvent_keepalive {f : Frame} (hp : f.ping.isSome = true) : frameEvent f = .ok none := by
  unfold frameEvent
  rw [if_pos hp]
  rfl

/-- A frame without a ping carries a status change or a line numbered from 1, or fails
with a decode error. -/
theorem frameEvent_carried {f : Frame} (hp : f.ping.isSome = false) : Carried (frameEvent f) := by
  unfold frameEvent Carried
  rw [if_neg (by simp [hp])]
  dsimp only [bind, Except.bind]
  -- a missing member or an unknown kind fails, and so does a value that does not decode
  split
  next kind _ =>
    split
    next task _ =>
      split
      next value _ =>
        split
        · -- kind 1: a status change
          split
          next err heq => exact .inr (.inr (streamDecoded_error heq))
          next u _ => exact .inl ⟨u, rfl⟩
        · split
          · -- kind 2: a log line, refused if numbered 0
            split
            next err heq => exact .inr (.inr (streamDecoded_error heq))
            next l _ =>
              split
              · exact .inr (.inr ⟨_, rfl⟩)
              · next hzero => exact .inr (.inl ⟨task, l, rfl, by simp at hzero; omega⟩)
          · exact .inr (.inr ⟨_, rfl⟩)
      next => exact .inr (.inr ⟨_, rfl⟩)
    next => exact .inr (.inr ⟨_, rfl⟩)
  next => exact .inr (.inr ⟨_, rfl⟩)

/-- A frame without a ping, of kind 2, with a task id and a value that decodes to a line
numbered from 1 delivers that line. -/
theorem frameEvent_log {f : Frame} {n : Nat} {v : Value} {l : LogLine} (hp : f.ping = none)
    (hk : f.kind.bind Numeric.value = some 2) (htask : f.task.bind Numeric.value = some n)
    (hv : f.value = some v) (hl : LogValue.ofJson v = .ok l) (h1 : 1 ≤ l.number) :
    frameEvent f = .ok (some (.log n l)) := by
  unfold frameEvent
  dsimp only [bind, Except.bind, streamDecoded]
  rw [hp, hk, htask, hv]
  dsimp only
  rw [hl]
  have h0 : (l.number == 0) = false := by simp; omega
  simp [h0]
  rfl

/-- A frame without a ping, of kind 1, with a task id and a value that decodes to a status
change for that task delivers the change. -/
theorem frameEvent_status {f : Frame} {n : Nat} {v : Value} {u : StatusUpdate} (hp : f.ping = none)
    (hk : f.kind.bind Numeric.value = some 1) (htask : f.task.bind Numeric.value = some n)
    (hv : f.value = some v) (hs : StatusValue.ofJson n v = .ok u) :
    frameEvent f = .ok (some (.status u)) := by
  unfold frameEvent
  dsimp only [bind, Except.bind, streamDecoded]
  rw [hp, hk, htask, hv]
  dsimp only
  rw [hs]
  rfl

/-- What a frame comes to: the connection for `connect`, nothing for a type other than
the empty one and `message`; for those, a decode error if the data is no frame, nothing
for a keepalive, and what the frame carries otherwise. -/
theorem decodeFrame_outcomes {r : Except StreamError (Option LiveEvent)} (h : decodeFrame eventType data = r) :
    eventType = "connect" ∧ r = .ok (some .connected) ∨
    eventType ≠ "connect" ∧ eventType ≠ "" ∧ eventType ≠ "message" ∧ r = .ok none ∨
    (eventType = "" ∨ eventType = "message") ∧
      ((∃ e, readFrame data = .error e ∧ r = .error (.decode e.text)) ∨
        ∃ f, readFrame data = .ok f ∧ (f.ping.isSome ∧ r = .ok none ∨ f.ping.isNone ∧ Carried r)) := by
  subst h
  by_cases hc : eventType = "connect"
  · -- the connection, whatever the data
    subst hc
    exact .inl ⟨rfl, decodeFrame_connect data⟩
  by_cases hm : eventType = "" ∨ eventType = "message"
  case neg =>
    simp only [not_or] at hm
    exact .inr (.inl ⟨hc, hm.1, hm.2, decodeFrame_foreign hc hm.1 hm.2⟩)
  refine .inr (.inr ⟨hm, ?_⟩)
  cases hread : readFrame data with
  | error e => exact .inl ⟨e, rfl, decodeFrame_read_error hm hread⟩
  | ok f =>
    refine .inr ⟨f, rfl, ?_⟩
    rw [decodeFrame_read hm hread]
    cases hp : f.ping.isSome
    · exact .inr ⟨by simpa using hp, frameEvent_carried hp⟩
    · exact .inl ⟨rfl, frameEvent_keepalive hp⟩

/-- The connection comes from events of type `connect` and from no other. -/
theorem decodeFrame_connected_iff : decodeFrame eventType data = .ok (some .connected) ↔ eventType = "connect" := by
  constructor
  · intro h
    rcases decodeFrame_outcomes h with ⟨hc, -⟩ | ⟨-, -, -, h'⟩ | ⟨-, ⟨e, -, h'⟩ | ⟨f, -, ⟨-, h'⟩ | ⟨-, hc⟩⟩⟩
    · exact hc
    · cases h'
    · cases h'
    · cases h'
    · rcases hc with ⟨u, hu⟩ | ⟨n, l, hl, -⟩ | ⟨m, hm⟩
      · cases hu
      · cases hl
      · cases hm
  · rintro rfl
    exact decodeFrame_connect data

/-- A message comes to nothing exactly when its data is a frame with a ping. -/
theorem decodeFrame_keepalive_iff (ht : eventType = "" ∨ eventType = "message") :
    decodeFrame eventType data = .ok none ↔ ∃ f, readFrame data = .ok f ∧ f.ping.isSome := by
  constructor
  · intro h
    rcases decodeFrame_outcomes h with ⟨hc, -⟩ | ⟨-, he, hm, -⟩ | ⟨-, ⟨e, -, he⟩ | ⟨f, hf, ⟨hp, -⟩ | ⟨-, hcarried⟩⟩⟩
    · rcases ht with rfl | rfl <;> exact absurd hc (by decide)
    · rcases ht with rfl | rfl
      · exact absurd rfl he
      · exact absurd rfl hm
    · cases he
    · exact ⟨f, hf, hp⟩
    · -- a frame without a ping carries something or fails
      rcases hcarried with ⟨u, hu⟩ | ⟨n, l, hl, -⟩ | ⟨m, hm⟩
      · cases hu
      · cases hl
      · cases hm
  · rintro ⟨f, hf, hp⟩
    rw [decodeFrame_read ht hf]
    exact frameEvent_keepalive hp

/-- The data of a keepalive opens, after blanks, an object or an array. -/
theorem decodeFrame_keepalive_opens (ht : eventType = "" ∨ eventType = "message")
    (h : decodeFrame eventType data = .ok none) :
    ∃ pre b rest, (stripDataPrefix (Text.trim data)).toUTF8.toList = pre ++ b :: rest ∧
      (∀ x ∈ pre, Json.Reader.IsBlank x) ∧ (b = 123 ∨ b = 91) := by
  obtain ⟨f, hf, -⟩ := (decodeFrame_keepalive_iff ht).mp h
  exact Json.Reader.decode_structure_opens hf

/-- No frame delivers a line numbered 0. -/
theorem decodeFrame_log_numbered {n : Nat} {l : LogLine} (h : decodeFrame eventType data = .ok (some (.log n l))) :
    1 ≤ l.number := by
  rcases decodeFrame_outcomes h with ⟨-, h'⟩ | ⟨-, -, -, h'⟩ | ⟨-, ⟨e, -, h'⟩ | ⟨f, -, ⟨-, h'⟩ | ⟨-, hc⟩⟩⟩
  · cases h'
  · cases h'
  · cases h'
  · cases h'
  · rcases hc with ⟨u, hu⟩ | ⟨n', l', hl, h1⟩ | ⟨m, hm⟩
    · cases hu
    · cases hl
      exact h1
    · cases hm

/-- Every failure of a frame is a decode error. -/
theorem decodeFrame_error_decode {e : StreamError} (h : decodeFrame eventType data = .error e) :
    ∃ m, e = .decode m := by
  rcases decodeFrame_outcomes h with ⟨-, h'⟩ | ⟨-, -, -, h'⟩ | ⟨-, ⟨e', -, h'⟩ | ⟨f, -, ⟨-, h'⟩ | ⟨-, hc⟩⟩⟩
  · cases h'
  · cases h'
  · cases h'
    exact ⟨_, rfl⟩
  · cases h'
  · rcases hc with ⟨u, hu⟩ | ⟨n', l', hl, -⟩ | ⟨m, hm⟩
    · cases hu
    · cases hl
    · cases hm
      exact ⟨m, rfl⟩

/-! ## Written frames -/

/-- Text that does not start with `d` has no `data: ` prefix to strip. -/
theorem stripDataPrefix_of_head {s : String} (h : ∀ c ∈ s.toList.head?, c ≠ 'd') : stripDataPrefix s = s := by
  unfold stripDataPrefix
  dsimp only
  have hgo : ∀ fuel, stripDataPrefix.go "data: ".toList fuel s.toList = s.toList := by
    intro fuel
    cases fuel with
    | zero => rfl
    | succ fuel =>
      rw [stripDataPrefix.go]
      cases hs : s.toList with
      | nil => rfl
      | cons c t =>
        have hc : c ≠ 'd' := h c (by simp [hs])
        simp [show "data: ".toList = ['d', 'a', 't', 'a', ':', ' '] from rfl, List.isPrefixOf, Ne.symm hc]
  rw [hgo, String.ofList_toList]

/-- A written object is its members between braces. -/
theorem object_write_chars (ms : List (String × Value)) :
    (Value.object ms).write.toList = '{' :: ((writeMembers ms).toList ++ ['}']) := by
  show ("\x7b" ++ writeMembers ms ++ "\x7d").toList = _
  simp [String.toList_append]

/-- The data of a written object is read as it is: it has no blank ends and no `data: `
prefix. -/
theorem readFrame_object (ms : List (String × Value)) :
    readFrame (Value.object ms).write =
      Reader.decode (Reader.structure_ Reader.frameShape) (Value.object ms).write := by
  have hchars := object_write_chars ms
  have htrim : Text.trim (Value.object ms).write = (Value.object ms).write := by
    unfold Text.trim
    -- no padding on either side: the text opens and closes with a brace
    have hpad : Text.trimBlanks ([] ++ (Value.object ms).write.toList ++ []) = (Value.object ms).write.toList :=
      Text.trimBlanks_pad (by simp) (by simp) (by simp [hchars]) (by simp [hchars]; decide)
        (fun c hc => by
          rw [hchars, List.getLast?_cons, List.getLast?_append] at hc
          cases hc
          rfl)
    rw [List.nil_append, List.append_nil] at hpad
    rw [hpad, String.ofList_toList]
  unfold readFrame
  rw [htrim, stripDataPrefix_of_head (by simp [hchars])]

/-- A written frame of an event, a task and a value other than `null` is read with no
ping, the numbers of the event and the task, and the value as the reader keeps it. -/
theorem readFrame_event {ev tid v : Value} {e n : Nat} (hev : NumberSent e ev) (he : e < wordBound)
    (htid : NumberSent n tid) (hn : n < wordBound) (hv : v.plain = true) (hdeep : v.nesting < 127)
    (hnull : v ≠ .null) :
    ∃ f, readFrame (Value.object [("event", ev), ("task_id", tid), ("value", v)]).write = .ok f ∧
      f.ping = none ∧ f.kind.bind Numeric.value = some e ∧ f.task.bind Numeric.value = some n ∧
      f.value = some v.canon := by
  have hmembers : ∀ m ∈ [("event", ev), ("task_id", tid), ("value", v)], FrameMember m := by
    simp only [List.mem_cons, List.not_mem_nil, or_false]
    rintro m (rfl | rfl | rfl)
    · exact hev.member (.inl rfl) he
    · exact htid.member (.inr rfl) hn
    · exact ⟨hv, .inr (.inl rfl)⟩
  have hnest : (Value.object [("event", ev), ("task_id", tid), ("value", v)]).nesting < 128 := by
    simp only [Value.nesting, membersNesting, hev.nesting, htid.nesting]
    omega
  refine ⟨_, (readFrame_object _).trans (Reader.frame_written hmembers
    (show List.Nodup ["event", "task_id", "value"] by decide) hnest), rfl, hev.value he, htid.value hn, ?_⟩
  -- the members set the frame's fields in order, and only `null` is left out
  show v.optional = some v.canon
  cases v with
  | null => exact absurd rfl hnull
  | _ => rfl

/-- A written log line frame delivers its line: kind 2 and the task id, each as a number
or as padded digits, the line's text and its number from 1. -/
theorem decodeFrame_written_log (ht : eventType = "" ∨ eventType = "message") {ev tid : Value}
    {n k : Nat} (s : String) (hev : NumberSent 2 ev) (hn : n < wordBound)
    (htid : NumberSent n tid) (hk1 : 1 ≤ k) (hk : k < wordBound) :
    decodeFrame eventType (Value.object [("event", ev), ("task_id", tid),
      ("value", .object [("line", .string s), ("line_number", .number (.nat k))])]).write =
      .ok (some (.log n ⟨k, s⟩)) := by
  have hplain : (Value.object [("line", .string s), ("line_number", .number (.nat k))]).plain = true := by
    simpa [Value.plain, plainMembers] using hk
  obtain ⟨f, hf, hp, hkind, htask, hvalue⟩ := readFrame_event hev (by decide) htid hn hplain
    (by simp [Value.nesting, membersNesting]) (by nofun)
  rw [decodeFrame_read ht hf]
  exact frameEvent_log hp hkind htask hvalue (logValue_written s hk) hk1

/-- A written status frame delivers the change: kind 1 and the task id, each as a number
or as padded digits, the status by its wire number, an exit code within 32 bits or `null`,
and a reason or `null`, an empty reason taken as none. -/
theorem decodeFrame_written_status (ht : eventType = "" ∨ eventType = "message") {ev tid : Value}
    {n : Nat} (st : TaskStatus) {code : Option Int} (reason : Option String) (hev : NumberSent 1 ev)
    (hn : n < wordBound) (htid : NumberSent n tid) (hcode : ∀ c ∈ code, -Int.pow 2 31 ≤ c ∧ c < Int.pow 2 31) :
    decodeFrame eventType (Value.object [("event", ev), ("task_id", tid),
      ("value", .object [("status", .number (.nat st.wire)), ("exit_code", Value.ofOption Value.ofInt code),
        ("reason", Value.ofOption Value.string reason)])]).write =
      .ok (some (.status ⟨n, st, code, reason.filter (!·.isEmpty)⟩)) := by
  have hplain : (Value.object [("status", .number (.nat st.wire)), ("exit_code", Value.ofOption Value.ofInt code),
      ("reason", Value.ofOption Value.string reason)]).plain = true := by
    have hwire : st.wire < wordBound := by cases st <;> decide
    have hexit : (Value.ofOption Value.ofInt code).plain = true := by
      cases code with
      | none => rfl
      | some c => exact plain_ofInt (hcode c rfl).1 (hcode c rfl).2
    have hreason : (Value.ofOption Value.string reason).plain = true := by cases reason <;> rfl
    simp [Value.plain, plainMembers, hwire, hexit, hreason]
  have hexit : (Value.ofOption Value.ofInt code).nesting = 0 := by
    cases code with
    | none => rfl
    | some c => show (Value.ofInt c).nesting = 0; unfold Value.ofInt; split <;> rfl
  have hreason : (Value.ofOption Value.string reason).nesting = 0 := by cases reason <;> rfl
  obtain ⟨f, hf, hp, hkind, htask, hvalue⟩ := readFrame_event hev (by decide) htid hn hplain
    (by simp [Value.nesting, membersNesting, hexit, hreason]) (by nofun)
  rw [decodeFrame_read ht hf]
  exact frameEvent_status hp hkind htask hvalue (statusValue_written n st hcode reason)

/-- A written object of frame members, each named once, with a ping other than `null` is
a keepalive, whatever its other members. -/
theorem decodeFrame_written_keepalive (ht : eventType = "" ∨ eventType = "message")
    {ms : List (String × Value)} (hms : ∀ m ∈ ms, FrameMember m) (hnodup : (ms.map Prod.fst).Nodup)
    (hn : (Value.object ms).nesting < 128) {v : Value} (hping : ("ping", v) ∈ ms) (hv : v ≠ .null) :
    decodeFrame eventType (Value.object ms).write = .ok none := by
  rw [decodeFrame_keepalive_iff ht]
  refine ⟨_, (readFrame_object ms).trans (Reader.frame_written hms hnodup hn), ?_⟩
  rw [foldl_set_ping hnodup hping]
  cases v with
  | null => exact absurd rfl hv
  | _ => rfl

/-! ## What a live frame delivers -/

/-- **What a live frame delivers**: the connection, nothing for a keepalive or a
foreign type, a status change or a log line numbered from 1, or a decode error. -/
theorem decodeFrame_delivers_domain_frames (eventType data : String) :
    (decodeFrame eventType data = .ok (some .connected) ↔ eventType = "connect") ∧
    (eventType ≠ "connect" → eventType ≠ "" → eventType ≠ "message" →
      decodeFrame eventType data = .ok none) ∧
    ((eventType = "" ∨ eventType = "message") →
      (decodeFrame eventType data = .ok none ↔ ∃ f, readFrame data = .ok f ∧ f.ping.isSome) ∧
      (decodeFrame eventType data = .ok none → ∃ pre b rest,
        (stripDataPrefix (Text.trim data)).toUTF8.toList = pre ++ b :: rest ∧
          (∀ x ∈ pre, Json.Reader.IsBlank x) ∧ (b = 123 ∨ b = 91)) ∧
      (∀ ms : List (String × Value), (∀ m ∈ ms, FrameMember m) → (ms.map Prod.fst).Nodup →
        (Value.object ms).nesting < 128 → ∀ v, ("ping", v) ∈ ms → v ≠ .null →
        decodeFrame eventType (Value.object ms).write = .ok none) ∧
      (∀ (ev tid : Value) (n k : Nat) (s : String), NumberSent 2 ev → n < wordBound → NumberSent n tid →
        1 ≤ k → k < wordBound →
        decodeFrame eventType (Value.object [("event", ev), ("task_id", tid),
          ("value", .object [("line", .string s), ("line_number", .number (.nat k))])]).write =
          .ok (some (.log n ⟨k, s⟩))) ∧
      (∀ (ev tid : Value) (n : Nat) (st : TaskStatus) (code : Option Int) (reason : Option String),
        NumberSent 1 ev → n < wordBound → NumberSent n tid →
        (∀ c ∈ code, -Int.pow 2 31 ≤ c ∧ c < Int.pow 2 31) →
        decodeFrame eventType (Value.object [("event", ev), ("task_id", tid),
          ("value", .object [("status", .number (.nat st.wire)), ("exit_code", Value.ofOption Value.ofInt code),
            ("reason", Value.ofOption Value.string reason)])]).write =
          .ok (some (.status ⟨n, st, code, reason.filter (!·.isEmpty)⟩)))) ∧
    (∀ n l, decodeFrame eventType data = .ok (some (.log n l)) → 1 ≤ l.number) ∧
    (∀ e, decodeFrame eventType data = .error e → ∃ m, e = .decode m) := by
  refine ⟨decodeFrame_connected_iff, decodeFrame_foreign, fun ht => ⟨decodeFrame_keepalive_iff ht,
    decodeFrame_keepalive_opens ht, ?_, ?_, ?_⟩, fun _ _ => decodeFrame_log_numbered,
    fun _ => decodeFrame_error_decode⟩
  · intro ms hms hnodup hn v hping hv
    exact decodeFrame_written_keepalive ht hms hnodup hn hping hv
  · intro ev tid n k s hev hn htid hk1 hk
    exact decodeFrame_written_log ht s hev hn htid hk1 hk
  · intro ev tid n st code reason hev hn htid hcode
    exact decodeFrame_written_status ht st reason hev hn htid hcode

/-- The log frame of a finished line, with its task id as text, delivers the line. -/
theorem decodeFrame_delivers_log_line :
    decodeFrame "message" (Value.object [("event", .number (.nat 2)), ("task_id", .string "7"),
      ("value", .object [("line", .string "done"), ("line_number", .number (.nat 251))])]).write =
      .ok (some (.log 7 ⟨251, "done"⟩)) :=
  ((decodeFrame_delivers_domain_frames "message" "").2.2.1 (.inr rfl)).2.2.2.1 _ _ 7 251 "done"
    (.inl rfl) (by decide) (.inr ⟨[], [], by simp, by simp; rfl⟩) (by decide) (by decide)

/-- Data that is an array is read as a frame by position, so `[1]` holds a ping
and is a keepalive, not a decode error. -/
theorem decodeFrame_array_keepalive : decodeFrame "message" "[1]" = .ok none := by
  cbv

end TaskConsole
