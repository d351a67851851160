import TaskConsole.Proofs.Json.Structures
import TaskConsole.Event.Frame

/-! Frames read back: reading a written frame object sets its members in order
(`frame_written`), numbers may be sent as padded digits (`NumberSent`). -/

namespace TaskConsole

open Json

/-! ## Members of a frame -/

/-- A value as an optional member keeps it: `null` is none. -/
def Json.Value.optional : Value → Option Value
  | .null => none
  | v => some v.canon

/-- A number member of a frame as read: a word or a text, none for anything else. -/
def Json.Value.numeric : Value → Option Numeric
  | .number (.nat n) => some (.number n)
  | .string s => some (.text s)
  | _ => none

/-- A frame after reading its member `m`: `null` leaves a member out. -/
def Frame.set (f : Frame) (m : String × Value) : Frame :=
  match m.1 with
  | "ping" => { f with ping := m.2.optional }
  | "event" => { f with kind := m.2.numeric }
  | "task_id" => { f with task := m.2.numeric }
  | "value" => { f with value := m.2.optional }
  | _ => f

/-- A member a frame reads back: one of the frame's fields, with a value written as it
is; the number members hold `null`, a word or a text. -/
def FrameMember (m : String × Value) : Prop :=
  m.2.plain = true ∧ (m.1 = "ping" ∨ m.1 = "value" ∨
    (m.1 = "event" ∨ m.1 = "task_id") ∧ (m.2 = .null ∨ (∃ n, m.2 = .number (.nat n)) ∨ ∃ s, m.2 = .string s))

/-- A member other than the ping leaves the ping as it was. -/
theorem Frame.set_ping {f : Frame} {m : String × Value} (hm : m.1 ≠ "ping") : (f.set m).ping = f.ping := by
  unfold Frame.set
  split
  next h => exact absurd h hm
  all_goals rfl

theorem foldl_set_ping_of_not_mem : ∀ {ms : List (String × Value)} {f : Frame},
    "ping" ∉ ms.map Prod.fst → (ms.foldl Frame.set f).ping = f.ping
  | [], _, _ => rfl
  | m :: ms, f, h => by
    rw [List.foldl_cons, foldl_set_ping_of_not_mem (fun h' => h (List.mem_cons_of_mem _ h')),
      Frame.set_ping (fun e => h (List.mem_map.mpr ⟨m, List.mem_cons_self, e⟩))]

/-- The ping of a frame read from members with distinct keys is that of its `ping` member. -/
theorem foldl_set_ping : ∀ {ms : List (String × Value)} {f : Frame} {v : Value},
    (ms.map Prod.fst).Nodup → ("ping", v) ∈ ms → (ms.foldl Frame.set f).ping = v.optional
  | m :: ms, f, v, hnodup, hmem => by
    rcases List.mem_cons.mp hmem with rfl | hmem
    · rw [List.foldl_cons, foldl_set_ping_of_not_mem (List.nodup_cons.mp hnodup).1]
      rfl
    · rw [List.foldl_cons]
      exact foldl_set_ping (List.nodup_cons.mp hnodup).2 hmem

namespace Json.Reader

/-- A number member reads a word or a text. -/
theorem numeric_written {v : Value} (d : Nat) (hv : v.plain = true)
    (h : (∃ n, v = .number (.nat n)) ∨ ∃ s, v = .string s) :
    ∃ x, v.numeric = some x ∧ Reads numeric v.write.toUTF8.toList x d Ends := by
  have hread := anyValue_written v d hv (by rcases h with ⟨n, rfl⟩ | ⟨s, rfl⟩ <;> exact Nat.zero_le d)
  rcases h with ⟨n, rfl⟩ | ⟨s, rfl⟩
  · refine ⟨.number n, rfl, fun c rest hc hA hd => ?_⟩
    obtain ⟨c', hrun, hr', hd'⟩ := hread c rest hc hA hd
    exact ⟨c', by unfold numeric; rw [bind_of_ok hrun]; rfl, hr', hd'⟩
  · refine ⟨.text s, rfl, fun c rest hc hA hd => ?_⟩
    obtain ⟨c', hrun, hr', hd'⟩ := hread c rest hc hA hd
    exact ⟨c', by unfold numeric; rw [bind_of_ok hrun]; rfl, hr', hd'⟩

/-- A member holding any value: `null` is none. -/
theorem optional_member (upd : Option Value → Frame → Frame) {v : Value} {d : Nat} (hv : v.plain = true)
    (hn : v.nesting ≤ d) :
    Reads (do let x ← option anyValue; pure (upd x)) v.write.toUTF8.toList (upd v.optional) d Ends := by
  by_cases hnull : v = .null
  · subst hnull
    exact (option_null anyValue d Ends).bind_pure
  · have hopt : v.optional = some v.canon := by
      cases v with
      | null => exact absurd rfl hnull
      | _ => rfl
    rw [hopt]
    exact (option_some hv hnull (anyValue_written v d hv hn)).bind_pure

/-- A number member: `null` is none. -/
theorem numeric_member (upd : Option Numeric → Frame → Frame) {v : Value} (d : Nat) (hv : v.plain = true)
    (h : v = .null ∨ (∃ n, v = .number (.nat n)) ∨ ∃ s, v = .string s) :
    Reads (do let x ← option numeric; pure (upd x)) v.write.toUTF8.toList (upd v.numeric) d Ends := by
  rcases h with rfl | hnum
  · exact (option_null numeric d Ends).bind_pure
  · obtain ⟨x, hx, hread⟩ := numeric_written d hv hnum
    have hnull : v ≠ .null := by rcases hnum with ⟨n, rfl⟩ | ⟨s, rfl⟩ <;> nofun
    rw [hx]
    exact (option_some hv hnull hread).bind_pure

/-- Each member a frame reads back is read by its field's reader as `Frame.set` says. -/
theorem frameField_written {m : String × Value} (d : Nat) (hm : FrameMember m) (hn : m.2.nesting ≤ d) :
    ∃ dec, frameField m.1 = some dec ∧ Reads dec m.2.write.toUTF8.toList (fun f => f.set m) d Ends := by
  obtain ⟨k, v⟩ := m
  obtain ⟨hv, hk⟩ := hm
  rcases hk with rfl | rfl | ⟨rfl | rfl, hnum⟩
  · exact ⟨_, rfl, optional_member (fun x f => { f with ping := x }) hv hn⟩
  · exact ⟨_, rfl, optional_member (fun x f => { f with value := x }) hv hn⟩
  · exact ⟨_, rfl, numeric_member (fun x f => { f with kind := x }) d hv hnum⟩
  · exact ⟨_, rfl, numeric_member (fun x f => { f with task := x }) d hv hnum⟩

/-- A frame is read from a written object of frame members, each named once: the members
set the frame's fields in order. -/
theorem frame_written {ms : List (String × Value)} (hms : ∀ m ∈ ms, FrameMember m)
    (hnodup : (ms.map Prod.fst).Nodup) (hn : (Value.object ms).nesting < 128) :
    decode (structure_ frameShape) (Value.object ms).write = .ok (ms.foldl Frame.set {}) := by
  have hread : FieldsRead frameShape Frame.set (membersNesting ms) ms := fun m hm =>
    frameField_written _ (hms m hm) (nesting_le_membersNesting hm)
  apply decode_of_reads (d := membersNesting ms + 1) (by simpa [Value.nesting] using hn)
  exact structure_written frameShape Frame.set _ (fun _ => rfl) hread hnodup _

end Json.Reader

/-! ## Numbers sent as text -/

namespace Text

/-- Blanks before text that starts with no blank are dropped, and nothing else. -/
theorem dropBlanks_append {p cs : List Char} (hp : ∀ c ∈ p, isBlank c = true)
    (hcs : ∀ c ∈ cs.head?, isBlank c = false) : dropBlanks (p ++ cs) = cs := by
  induction p with
  | nil =>
    cases cs with
    | nil => rfl
    | cons c t => exact List.dropWhile_cons_of_neg (by simp [hcs c rfl])
  | cons b p ih =>
    rw [List.cons_append, dropBlanks, List.dropWhile_cons_of_pos (hp b List.mem_cons_self)]
    exact ih (fun c hc => hp c (List.mem_cons_of_mem _ hc))

/-- Trimming removes blank padding from text that neither starts nor ends with a blank. -/
theorem trimBlanks_pad {p cs q : List Char} (hp : ∀ c ∈ p, isBlank c = true) (hq : ∀ c ∈ q, isBlank c = true)
    (hne : cs ≠ []) (hhead : ∀ c ∈ cs.head?, isBlank c = false)
    (hlast : ∀ c ∈ cs.getLast?, isBlank c = false) : trimBlanks (p ++ cs ++ q) = cs := by
  unfold trimBlanks
  have hfront : dropBlanks (p ++ cs ++ q) = cs ++ q := by
    rw [List.append_assoc]
    refine dropBlanks_append hp fun c hc => hhead c ?_
    obtain ⟨a, t, rfl⟩ := List.exists_cons_of_ne_nil hne
    exact hc
  have hback : dropBlanks (cs ++ q).reverse = cs.reverse := by
    rw [List.reverse_append]
    refine dropBlanks_append (fun c hc => hq c (List.mem_reverse.mp hc)) fun c hc => hlast c ?_
    rwa [List.head?_reverse] at hc
  rw [hfront, hback, List.reverse_reverse]

/-- No digit is a blank. -/
theorem isBlank_of_isDigit {c : Char} (h : c.isDigit = true) : isBlank c = false := by
  have := Json.Reader.digit_bounds h
  unfold isBlank
  simp only [Bool.or_eq_false_iff, Bool.and_eq_false_imp, decide_eq_true_eq, decide_eq_false_iff_not,
    beq_eq_false_iff_ne, ne_eq]
  omega

end Text

/-- The characters of a number's text are its decimal digits. -/
theorem toList_toString (n : Nat) : (toString n).toList = Nat.toDigits 10 n := by
  rw [Nat.toString_eq_ofList_toDigits, String.toList_ofList]

/-- The decimal digits of a word are read back as that word. -/
theorem parseWord_toString {n : Nat} (hn : n < wordBound) : Input.parseWord (toString n) = some n := by
  have hdig : ∀ d ∈ Nat.toDigits 10 n, d.isDigit = true :=
    fun d hd => Nat.isDigit_of_mem_toDigits (by decide) (by decide) hd
  obtain ⟨e, es, hes, he⟩ := Json.Reader.toDigits_cons n
  -- the first digit is no plus sign
  have hplus : e ≠ '+' := fun h => by
    subst h
    exact absurd he (by decide)
  have hfold : (Nat.toDigits 10 n).foldl (fun n d => n * 10 + (d.toNat - '0'.toNat)) 0 = n := by
    have := Nat.ofDigitChars_ten_toDigits (n := n)
    unfold Nat.ofDigitChars at this
    simpa only [Nat.mul_comm] using this
  unfold Input.parseWord
  rw [toList_toString, hes]
  dsimp only
  split
  next rest heq => exact absurd (List.cons.inj heq).1 hplus
  next =>
    have hall : (e :: es).all Char.isDigit = true := List.all_eq_true.mpr (hes ▸ hdig)
    rw [if_neg (by simp [hall]), ← hes, hfold, if_pos hn]

/-- The decimal text of a number, with any blank padding, trims to that text. -/
theorem trim_padded_toString {n : Nat} {p q : List Char} (hp : ∀ c ∈ p, Text.isBlank c = true)
    (hq : ∀ c ∈ q, Text.isBlank c = true) :
    Text.trim (String.ofList (p ++ (toString n).toList ++ q)) = toString n := by
  have hdig : ∀ d ∈ (toString n).toList, Text.isBlank d = false := fun d hd =>
    Text.isBlank_of_isDigit (Nat.isDigit_of_mem_toDigits (by decide) (by decide) (toList_toString n ▸ hd))
  have hne : (toString n).toList ≠ [] := toList_toString n ▸ Nat.toDigits_ne_nil
  unfold Text.trim
  rw [String.toList_ofList, Text.trimBlanks_pad hp hq hne (fun c hc => hdig c (List.mem_of_mem_head? hc))
    (fun c hc => hdig c (List.mem_of_mem_getLast? hc)), String.ofList_toList]

/-- A number as a frame may send it: the number, or its decimal digits as text with
blank padding. -/
def NumberSent (n : Nat) (v : Value) : Prop :=
  v = .number (.nat n) ∨ ∃ p q : List Char, (∀ c ∈ p ++ q, Text.isBlank c = true) ∧
    v = .string (String.ofList (p ++ (toString n).toList ++ q))

/-- A number sent either way stands for itself. -/
theorem NumberSent.value {n : Nat} {v : Value} (hn : n < wordBound) (h : NumberSent n v) :
    v.numeric.bind Numeric.value = some n := by
  rcases h with rfl | ⟨p, q, hpq, rfl⟩
  · rfl
  · show (some (Numeric.text _)).bind Numeric.value = some n
    -- the padding is trimmed, and the digits are read back
    rw [Option.bind_some, Numeric.value, trim_padded_toString (fun c hc => hpq c (List.mem_append_left _ hc))
      (fun c hc => hpq c (List.mem_append_right _ hc)), parseWord_toString hn]

theorem NumberSent.member {k : String} {n : Nat} {v : Value} (hk : k = "event" ∨ k = "task_id")
    (hn : n < wordBound) (h : NumberSent n v) : FrameMember (k, v) := by
  rcases h with rfl | ⟨p, q, -, rfl⟩
  · exact ⟨by simpa [Value.plain] using hn, .inr (.inr ⟨hk, .inr (.inl ⟨n, rfl⟩)⟩)⟩
  · exact ⟨rfl, .inr (.inr ⟨hk, .inr (.inr ⟨_, rfl⟩)⟩)⟩

theorem NumberSent.nesting {n : Nat} {v : Value} (h : NumberSent n v) : v.nesting = 0 := by
  rcases h with rfl | ⟨p, q, -, rfl⟩ <;> rfl

/-! ## Values of log lines and status changes -/

/-- A whole number as the writer holds it. -/
def Json.Value.ofInt (i : Int) : Value :=
  if 0 ≤ i then .number (.nat i.toNat) else .number (.negative i)

/-- An optional member's value, `null` for none. -/
def Json.Value.ofOption {α : Type} (f : α → Value) : Option α → Value
  | none => .null
  | some a => f a

theorem toI32_ofInt {c : Int} (hlo : -Int.pow 2 31 ≤ c) (hhi : c < Int.pow 2 31) :
    Value.toI32 (Value.ofInt c) = .ok c := by
  unfold Value.toI32 Value.toSigned
  by_cases h0 : 0 ≤ c
  · rw [Value.ofInt, if_pos h0]
    dsimp only
    rw [if_pos (by omega), Int.toNat_of_nonneg h0]
  · rw [Value.ofInt, if_neg h0]
    dsimp only
    rw [if_pos hlo]

theorem toOption_toI32_ofInt {code : Option Int} (h : ∀ c ∈ code, -Int.pow 2 31 ≤ c ∧ c < Int.pow 2 31) :
    (Value.ofOption Value.ofInt code).toOption Value.toI32 = .ok code := by
  cases code with
  | none => rfl
  | some c =>
    obtain ⟨hlo, hhi⟩ := h c rfl
    have hnull : Value.ofInt c ≠ .null := by
      unfold Value.ofInt
      split <;> nofun
    show Value.toOption Value.toI32 (Value.ofInt c) = _
    rw [Value.toOption.eq_2 _ _ hnull, toI32_ofInt hlo hhi]
    rfl

theorem toOption_toStr_string (reason : Option String) :
    (Value.ofOption Value.string reason).toOption Value.toStr = .ok reason := by
  cases reason <;> rfl

theorem plain_ofInt {c : Int} (hlo : -Int.pow 2 31 ≤ c) (hhi : c < Int.pow 2 31) : (Value.ofInt c).plain = true := by
  have h31 : Int.pow 2 31 = 2147483648 := rfl
  unfold Value.ofInt
  split
  · show decide (c.toNat < wordBound) = true
    have : wordBound = 18446744073709551616 := rfl
    exact decide_eq_true (by omega)
  · simp only [Value.plain, Bool.and_eq_true, decide_eq_true_eq]
    have : Int.pow 2 63 = 9223372036854775808 := rfl
    omega

theorem TaskStatus.ofJson_wire (st : TaskStatus) : TaskStatus.ofJson (.number (.nat st.wire)) = .ok st := by
  cases st <;> rfl

/-- The value of a log line: its text and its number. -/
theorem logValue_written (s : String) {k : Nat} (hk : k < wordBound) :
    LogValue.ofJson (Value.object [("line", .string s), ("line_number", .number (.nat k))]).canon =
      .ok ⟨k, s⟩ := by
  have hu64 : Value.toU64 (.number (.nat k)) = .ok k := by
    unfold Value.toU64 Value.toUnsigned
    exact if_pos hk
  show LogValue.ofJson (objectOf [("line", .string s), ("line_number", .number (.nat k))]) = _
  simp only [LogValue.ofJson, objectOf, List.foldl_cons, insertMember, String.reduceLT, ↓reduceIte,
    String.reduceEq, List.foldl_nil, bind, Except.bind, Value.members, LogValue.field, Value.toStr, pure,
    Except.pure, List.contains_eq_mem, List.not_mem_nil, decide_false, Bool.false_eq_true, List.mem_cons,
    or_self, hu64, LogValue.finish]

/-- The value of a status change: its status, exit code and reason, an empty reason
taken as none. -/
theorem statusValue_written (n : Nat) (st : TaskStatus) {code : Option Int}
    (hcode : ∀ c ∈ code, -Int.pow 2 31 ≤ c ∧ c < Int.pow 2 31) (reason : Option String) :
    StatusValue.ofJson n (Value.object [("status", .number (.nat st.wire)),
      ("exit_code", Value.ofOption Value.ofInt code), ("reason", Value.ofOption Value.string reason)]).canon =
      .ok ⟨n, st, code, reason.filter (!·.isEmpty)⟩ := by
  have hcanon₁ : (Value.ofOption Value.ofInt code).canon = Value.ofOption Value.ofInt code := by
    cases code with
    | none => rfl
    | some c =>
      show (Value.ofInt c).canon = Value.ofInt c
      unfold Value.ofInt
      split <;> rfl
  have hcanon₂ : (Value.ofOption Value.string reason).canon = Value.ofOption Value.string reason := by
    cases reason <;> rfl
  show StatusValue.ofJson n (objectOf [("status", .number (.nat st.wire)),
    ("exit_code", (Value.ofOption Value.ofInt code).canon), ("reason", (Value.ofOption Value.string reason).canon)]) = _
  rw [hcanon₁, hcanon₂]
  simp only [StatusValue.ofJson, objectOf, List.foldl_cons, insertMember, String.reduceLT, ↓reduceIte,
    String.reduceEq, List.foldl_nil, bind, Except.bind, Value.members, StatusValue.field, pure, Except.pure,
    List.contains_eq_mem, List.not_mem_nil, decide_false, Bool.false_eq_true, toOption_toI32_ofInt hcode,
    List.mem_cons, or_self, toOption_toStr_string, TaskStatus.ofJson_wire, StatusValue.finish]

end TaskConsole
