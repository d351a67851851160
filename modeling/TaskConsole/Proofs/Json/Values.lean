import TaskConsole.Proofs.Json.Scalars

/-! Values read back: the reader reads every double-free value the writer writes as
the reader keeps it, members sorted by key (`value_written`). -/

namespace TaskConsole.Json

mutual
/-- How deep arrays and objects nest in a value. -/
def Value.nesting : Value → Nat
  | .array vs => itemsNesting vs + 1
  | .object ms => membersNesting ms + 1
  | _ => 0
/-- The deepest nesting of a list of values. -/
def itemsNesting : List Value → Nat
  | [] => 0
  | v :: vs => max v.nesting (itemsNesting vs)
/-- The deepest nesting of the values of members. -/
def membersNesting : List (String × Value) → Nat
  | [] => 0
  | (_, v) :: ms => max v.nesting (membersNesting ms)
end

mutual
/-- A value as the reader keeps it: each object's members in ascending order of their keys,
the later of two members with one key kept. -/
def Value.canon : Value → Value
  | .array vs => .array (canonItems vs)
  | .object ms => objectOf (canonMembers ms)
  | v => v
/-- Values as the reader keeps them. -/
def canonItems : List Value → List Value
  | [] => []
  | v :: vs => v.canon :: canonItems vs
/-- Members with their values as the reader keeps them. -/
def canonMembers : List (String × Value) → List (String × Value)
  | [] => []
  | (k, v) :: ms => (k, v.canon) :: canonMembers ms
end

mutual
/-- Whether a value is written as it is: no double, and negative numbers below zero. -/
def Value.plain : Value → Bool
  | .number (.nat n) => n < wordBound
  | .number (.negative n) => -Int.pow 2 63 ≤ n && n < 0
  | .number (.float _) => false
  | .array vs => plainItems vs
  | .object ms => plainMembers ms
  | _ => true
/-- Whether values are written as they are. -/
def plainItems : List Value → Bool
  | [] => true
  | v :: vs => v.plain && plainItems vs
/-- Whether the values of members are written as they are. -/
def plainMembers : List (String × Value) → Bool
  | [] => true
  | (_, v) :: ms => v.plain && plainMembers ms
end

/-- The elements after the first, each after its comma. -/
def moreItems : List Value → String
  | [] => ""
  | v :: vs => "," ++ v.write ++ moreItems vs

/-- The members after the first, each after its comma. -/
def moreMembers : List (String × Value) → String
  | [] => ""
  | (k, v) :: ms => "," ++ quoteString k ++ ":" ++ v.write ++ moreMembers ms

theorem writeItems_cons (v : Value) (vs : List Value) : writeItems (v :: vs) = v.write ++ moreItems vs := by
  cases vs with
  | nil => simp [writeItems, moreItems]
  | cons w ws => simp [writeItems, moreItems, writeItems_cons w ws, String.append_assoc]

theorem writeMembers_cons (k : String) (v : Value) (ms : List (String × Value)) :
    writeMembers ((k, v) :: ms) = quoteString k ++ ":" ++ v.write ++ moreMembers ms := by
  cases ms with
  | nil => simp [writeMembers, moreMembers]
  | cons m ms =>
    obtain ⟨k', v'⟩ := m
    simp [writeMembers, moreMembers, writeMembers_cons k' v' ms, String.append_assoc]

theorem quoteString_bytes (s : String) :
    (quoteString s).toUTF8.toList = 34 :: (s.toList.flatMap Reader.escBytes ++ [34]) := by
  rw [quoteString, utf8_bytes, String.toList_ofList, List.flatMap_cons, List.flatMap_append,
    List.flatMap_assoc]
  rfl

theorem write_nat_bytes (n : Nat) :
    (Value.number (.nat n)).write.toUTF8.toList = (Nat.toDigits 10 n).flatMap String.utf8EncodeChar := by
  show (toString n).toUTF8.toList = _
  rw [utf8_bytes, Nat.toString_eq_ofList_toDigits, String.toList_ofList]

theorem write_negative_bytes {n : Int} (hn : n < 0) :
    (Value.number (.negative n)).write.toUTF8.toList =
      45 :: (Nat.toDigits 10 n.natAbs).flatMap String.utf8EncodeChar := by
  show (toString n).toUTF8.toList = _
  rw [Int.toString_eq_repr, Int.repr_eq_if, if_neg (by omega), toUTF8_append]
  have : (-n).toNat = n.natAbs := by omega
  rw [this, ← Nat.toString_eq_repr, utf8_bytes, utf8_bytes, Nat.toString_eq_ofList_toDigits,
    String.toList_ofList]
  simp only [List.flatMap_cons, List.flatMap_nil, List.append_nil, String.toList_ofList]
  rfl

theorem write_array_bytes (vs : List Value) :
    (Value.array vs).write.toUTF8.toList = 91 :: ((writeItems vs).toUTF8.toList ++ [93]) := by
  show ("[" ++ writeItems vs ++ "]").toUTF8.toList = _
  rw [toUTF8_append, toUTF8_append, show "[".toUTF8.toList = [91] by rw [utf8_bytes]; rfl,
    show "]".toUTF8.toList = [93] by rw [utf8_bytes]; rfl]
  rfl

theorem write_object_bytes (ms : List (String × Value)) :
    (Value.object ms).write.toUTF8.toList = 123 :: ((writeMembers ms).toUTF8.toList ++ [125]) := by
  show ("\x7b" ++ writeMembers ms ++ "\x7d").toUTF8.toList = _
  rw [toUTF8_append, toUTF8_append, show "\x7b".toUTF8.toList = [123] by rw [utf8_bytes]; rfl,
    show "\x7d".toUTF8.toList = [125] by rw [utf8_bytes]; rfl]
  rfl

theorem null_bytes : Value.null.write.toUTF8.toList = [110, 117, 108, 108] := by
  show "null".toUTF8.toList = _
  rw [utf8_bytes]
  rfl

theorem true_bytes : (Value.bool true).write.toUTF8.toList = [116, 114, 117, 101] := by
  show "true".toUTF8.toList = _
  rw [utf8_bytes]
  rfl

theorem false_bytes : (Value.bool false).write.toUTF8.toList = [102, 97, 108, 115, 101] := by
  show "false".toUTF8.toList = _
  rw [utf8_bytes]
  rfl

theorem moreItems_cons_bytes (v : Value) (vs : List Value) :
    (moreItems (v :: vs)).toUTF8.toList = 44 :: (v.write.toUTF8.toList ++ (moreItems vs).toUTF8.toList) := by
  rw [moreItems, toUTF8_append, toUTF8_append, show ",".toUTF8.toList = [44] by rw [utf8_bytes]; rfl]
  simp

theorem moreMembers_cons_bytes (k : String) (v : Value) (ms : List (String × Value)) :
    (moreMembers ((k, v) :: ms)).toUTF8.toList =
      44 :: (34 :: (k.toList.flatMap Reader.escBytes ++ [34]) ++ 58 :: (v.write.toUTF8.toList ++
        (moreMembers ms).toUTF8.toList)) := by
  rw [moreMembers, toUTF8_append, toUTF8_append, toUTF8_append, toUTF8_append, quoteString_bytes,
    show ",".toUTF8.toList = [44] by rw [utf8_bytes]; rfl, show ":".toUTF8.toList = [58] by rw [utf8_bytes]; rfl]
  simp

theorem writeMembers_cons_bytes (k : String) (v : Value) (ms : List (String × Value)) :
    (writeMembers ((k, v) :: ms)).toUTF8.toList =
      34 :: (k.toList.flatMap Reader.escBytes ++ [34]) ++ 58 :: (v.write.toUTF8.toList ++
        (moreMembers ms).toUTF8.toList) := by
  rw [writeMembers_cons, toUTF8_append, toUTF8_append, toUTF8_append, quoteString_bytes,
    show ":".toUTF8.toList = [58] by rw [utf8_bytes]; rfl]
  simp

theorem length_le_moreMembers : ∀ ms : List (String × Value), ms.length ≤ (moreMembers ms).toUTF8.toList.length
  | [] => Nat.zero_le _
  | (k, v) :: ms => by
    have := length_le_moreMembers ms
    rw [moreMembers_cons_bytes]
    simp only [List.length_cons, List.length_append]
    omega

theorem length_le_writeMembers : ∀ ms : List (String × Value), ms.length ≤ (writeMembers ms).toUTF8.toList.length
  | [] => Nat.zero_le _
  | (k, v) :: ms => by
    have := length_le_moreMembers ms
    rw [writeMembers_cons_bytes]
    simp only [List.length_cons, List.length_append]
    omega

theorem nesting_le_membersNesting : ∀ {ms : List (String × Value)} {m : String × Value}, m ∈ ms →
    m.2.nesting ≤ membersNesting ms
  | (k, v) :: ms, m, hm => by
    rcases List.mem_cons.mp hm with rfl | hm
    · exact Nat.le_max_left _ _
    · have := nesting_le_membersNesting hm
      simp only [membersNesting]
      omega

end TaskConsole.Json

namespace TaskConsole.Json.Reader

/-- A keyword's branch of the value reader: its first letter, then the others. -/
theorem keyword_reads (b : UInt8) (bs : List UInt8) (v : Value) (d : Nat) (A : List UInt8 → Prop) :
    Reads (do eat; ident bs; pure v) (b :: bs) v d A := by
  have h : Reads (eat >>= fun _ => ident bs >>= fun _ => Pure.pure v) ([b] ++ (bs ++ [])) v d A :=
    (eat_reads b d (fun _ => True)).bind ((ident_reads bs d (fun _ => True)).bind
      (Reads.pure v d A) (fun _ _ => trivial)) (fun _ _ => trivial)
  rwa [List.append_nil, List.singleton_append] at h

/-- The keywords `null`, `true` and `false` are read back. -/
theorem value_keyword (fuel d : Nat) (A : List UInt8 → Prop) {v : Value}
    (hv : v = .null ∨ v = .bool true ∨ v = .bool false) :
    Reads (value (fuel + 1)) v.write.toUTF8.toList v d A := by
  intro c rest hc hA hd
  unfold value
  -- the first letter picks the keyword's branch
  rcases hv with rfl | rfl | rfl
  · rw [null_bytes] at hc
    rw [bind_of_ok (blank_at hc (by simp [IsBlank]))]
    exact Reads.placed (keyword_reads 110 _ .null d A) c rest hc hA hd
  · rw [true_bytes] at hc
    rw [bind_of_ok (blank_at hc (by simp [IsBlank]))]
    exact Reads.placed (keyword_reads 116 _ (.bool true) d A) c rest hc hA hd
  · rw [false_bytes] at hc
    rw [bind_of_ok (blank_at hc (by simp [IsBlank]))]
    exact Reads.placed (keyword_reads 102 _ (.bool false) d A) c rest hc hA hd

/-- A string is read back from its quotes. -/
theorem value_string (fuel d : Nat) (A : List UInt8 → Prop) (s : String) :
    Reads (value (fuel + 1)) (34 :: (s.toList.flatMap escBytes ++ [34])) (.string s) d A := by
  intro c rest hc hA hd
  unfold value
  rw [bind_of_ok (blank_at (show c.rest = 34 :: (s.toList.flatMap escBytes ++ [34] ++ rest) by simp [hc])
    (by simp [IsBlank]))]
  exact Reads.placed ((eat_reads 34 d (fun _ => True)).bind (string_reads s d A).bind_pure
    (fun _ _ => trivial)) c rest hc hA hd

/-- A word is read back from its decimal digits. -/
theorem value_nat (fuel d : Nat) {n : Nat} (hn : n ≤ wordMax) :
    Reads (value (fuel + 1)) ((Nat.toDigits 10 n).flatMap String.utf8EncodeChar) (.number (.nat n)) d Ends := by
  intro c rest hc hends hd
  obtain ⟨e, es, hes, he⟩ := toDigits_cons n
  -- the first byte is a digit, so the match falls to its last case
  have h110 : UInt8.ofNat e.toNat ≠ 110 := digitByte_ne he (by decide)
  have h116 : UInt8.ofNat e.toNat ≠ 116 := digitByte_ne he (by decide)
  have h102 : UInt8.ofNat e.toNat ≠ 102 := digitByte_ne he (by decide)
  have h45 : UInt8.ofNat e.toNat ≠ 45 := digitByte_ne he (by decide)
  have h34 : UInt8.ofNat e.toNat ≠ 34 := digitByte_ne he (by decide)
  have h91 : UInt8.ofNat e.toNat ≠ 91 := digitByte_ne he (by decide)
  have h123 : UInt8.ofNat e.toNat ≠ 123 := digitByte_ne he (by decide)
  have hfirst : c.rest = UInt8.ofNat e.toNat :: (es.flatMap String.utf8EncodeChar ++ rest) := by
    simp [hc, hes, utf8EncodeChar_digit he]
  unfold value
  rw [bind_of_ok (blank_at hfirst (digitByte_not_blank he))]
  simp only [isDigit_byte he, if_true]
  exact Reads.placed (number_nat_reads hn d).bind_pure c rest hc hends hd

/-- A negative number is read back from its minus and digits. -/
theorem value_negative (fuel d : Nat) {m : Nat} (hpos : 0 < m) (hm : m ≤ Nat.pow 2 63) :
    Reads (value (fuel + 1)) (45 :: (Nat.toDigits 10 m).flatMap String.utf8EncodeChar)
      (.number (.negative (-(m : Int)))) d Ends := by
  intro c rest hc hends hd
  unfold value
  rw [bind_of_ok (blank_at (show c.rest = 45 :: ((Nat.toDigits 10 m).flatMap String.utf8EncodeChar ++ rest)
    by simp [hc]) (by simp [IsBlank]))]
  exact Reads.placed ((eat_reads 45 d (fun _ => True)).bind (number_negative_reads hpos hm d).bind_pure
    (fun _ _ => trivial)) c rest hc hends hd

/-- The first byte of a written value opens it: no blank, comma or closing bracket, and
`n` only for `null`. -/
theorem write_head (v : Value) (hv : v.plain = true) :
    ∃ b r, v.write.toUTF8.toList = b :: r ∧ ¬ IsBlank b ∧ b ≠ 93 ∧ b ≠ 44 ∧ b ≠ 125 ∧
      (b = 110 → v = .null) := by
  match v, hv with
  | .null, _ => exact ⟨110, _, null_bytes, by simp [IsBlank], by decide, by decide, by decide,
      fun _ => rfl⟩
  | .bool true, _ => exact ⟨116, _, true_bytes,
      by simp [IsBlank], by decide, by decide, by decide, fun h => absurd h (by decide)⟩
  | .bool false, _ => exact ⟨102, _, false_bytes,
      by simp [IsBlank], by decide, by decide, by decide, fun h => absurd h (by decide)⟩
  | .number (.nat n), _ =>
    obtain ⟨e, es, hes, he⟩ := toDigits_cons n
    exact ⟨_, _, by rw [write_nat_bytes, hes, List.flatMap_cons, utf8EncodeChar_digit he]; rfl,
      digitByte_not_blank he, digitByte_ne he (by decide), digitByte_ne he (by decide),
      digitByte_ne he (by decide), fun h => absurd h (digitByte_ne he (by decide))⟩
  | .number (.negative n), hv =>
    have hn : n < 0 := by simp [Value.plain] at hv; omega
    exact ⟨45, _, write_negative_bytes hn, by simp [IsBlank], by decide, by decide, by decide,
      fun h => absurd h (by decide)⟩
  | .string s, _ => exact ⟨34, _, quoteString_bytes s, by simp [IsBlank], by decide, by decide, by decide,
      fun h => absurd h (by decide)⟩
  | .array vs, _ => exact ⟨91, _, write_array_bytes vs, by simp [IsBlank], by decide, by decide, by decide,
      fun h => absurd h (by decide)⟩
  | .object ms, _ => exact ⟨123, _, write_object_bytes ms, by simp [IsBlank], by decide, by decide,
      by decide, fun h => absurd h (by decide)⟩

/-- After a value inside an array or object comes a comma or the closing byte: a number
ends there. -/
theorem ends_of_close {rest : List UInt8} {b : UInt8} (h : rest.head? = some b) (hb : b = 44 ∨ b = 93 ∨ b = 125) :
    Ends rest := by
  intro x hx
  rw [h] at hx
  cases hx
  rcases hb with rfl | rfl | rfl <;> decide

/-- After the elements that follow the first, a number ends. -/
theorem moreItems_ends (vs : List Value) {rest : List UInt8} (h : rest.head? = some 93) :
    Ends ((moreItems vs).toUTF8.toList ++ rest) := by
  cases vs with
  | nil => simpa [moreItems, show "".toUTF8.toList = [] by rw [utf8_bytes]; rfl] using ends_of_close h (by simp)
  | cons w ws => rw [moreItems_cons_bytes]; exact ends_of_close rfl (by simp)

theorem moreMembers_ends (ms : List (String × Value)) {rest : List UInt8} (h : rest.head? = some 125) :
    Ends ((moreMembers ms).toUTF8.toList ++ rest) := by
  cases ms with
  | nil => simpa [moreMembers, show "".toUTF8.toList = [] by rw [utf8_bytes]; rfl] using ends_of_close h (by simp)
  | cons m ms => obtain ⟨k, v⟩ := m; rw [moreMembers_cons_bytes]; exact ends_of_close rfl (by simp)

theorem nextElement_close (first : Bool) {c : Cursor} {r : List UInt8} (h : c.rest = 93 :: r) :
    nextElement first c = .ok false c := by
  unfold nextElement
  rw [bind_of_ok (blank_at h (by simp [IsBlank]))]
  rfl

theorem nextElement_first {c : Cursor} {b : UInt8} {r : List UInt8} (h : c.rest = b :: r)
    (hb : ¬ IsBlank b) (h93 : b ≠ 93) (h44 : b ≠ 44) : nextElement true c = .ok true c := by
  unfold nextElement
  rw [bind_of_ok (blank_at h hb)]
  -- the byte ahead is neither a closing bracket nor a comma
  simp [pure_apply]

theorem nextElement_comma {c : Cursor} {b : UInt8} {r : List UInt8} (h : c.rest = 44 :: b :: r)
    (hb : ¬ IsBlank b) (h93 : b ≠ 93) :
    ∃ c', nextElement false c = .ok true c' ∧ c'.rest = b :: r ∧ c'.depth = c.depth := by
  obtain ⟨c₁, heat, hr₁, hd₁⟩ := eat_step h
  refine ⟨c₁, ?_, hr₁, hd₁⟩
  unfold nextElement
  rw [bind_of_ok (blank_at h (by simp [IsBlank]))]
  simp only [Bool.false_eq_true, ↓reduceIte]
  rw [bind_of_ok heat, bind_of_ok (blank_at hr₁ hb)]
  simp [pure_apply]

theorem colon_step {c : Cursor} {r : List UInt8} (h : c.rest = 58 :: r) :
    ∃ c', colon c = .ok () c' ∧ c'.rest = r ∧ c'.depth = c.depth := by
  obtain ⟨c₁, heat, hr₁, hd₁⟩ := eat_step h
  refine ⟨c₁, ?_, hr₁, hd₁⟩
  unfold colon
  rw [bind_of_ok (blank_at h (by simp [IsBlank]))]
  exact heat

theorem endArray_reads (d : Nat) (A : List UInt8 → Prop) : Reads endArray [93] () d A := by
  intro c rest hc _ _
  obtain ⟨c₁, heat, hr₁, hd₁⟩ := eat_step hc
  refine ⟨c₁, ?_, hr₁, hd₁⟩
  unfold endArray
  rw [bind_of_ok (blank_at hc (by simp [IsBlank]))]
  exact heat

theorem endObject_reads (d : Nat) (A : List UInt8 → Prop) : Reads endObject [125] () d A := by
  intro c rest hc _ _
  obtain ⟨c₁, heat, hr₁, hd₁⟩ := eat_step hc
  refine ⟨c₁, ?_, hr₁, hd₁⟩
  unfold endObject
  rw [bind_of_ok (blank_at hc (by simp [IsBlank]))]
  exact heat

theorem nextKey_close (first : Bool) {c : Cursor} {r : List UInt8} (h : c.rest = 125 :: r) :
    nextKey first c = .ok none c := by
  unfold nextKey
  rw [bind_of_ok (blank_at h (by simp [IsBlank]))]
  rfl

/-- The first key of an object is read with its quotes. -/
theorem nextKey_first (k : String) (d : Nat) (A : List UInt8 → Prop) :
    Reads (nextKey true) (34 :: (k.toList.flatMap Reader.escBytes ++ [34])) (some k) d A := by
  intro c rest hc hA hd
  have h : c.rest = 34 :: (k.toList.flatMap Reader.escBytes ++ [34] ++ rest) := by simp [hc]
  have hkey : Reads (string >>= fun x => pure (some x)) (k.toList.flatMap Reader.escBytes ++ [34]) (some k) d A :=
    (string_reads k d A).bind_pure
  have hread : Reads (eat >>= fun _ => string >>= fun x => pure (some x))
      ([34] ++ (k.toList.flatMap Reader.escBytes ++ [34])) (some k) d A :=
    (eat_reads 34 d (fun _ => True)).bind hkey (fun _ _ => trivial)
  obtain ⟨c₁, hrun, hr₁, hd₁⟩ := hread c rest (by simpa using hc) hA hd
  refine ⟨c₁, ?_, hr₁, hd₁⟩
  unfold nextKey
  rw [bind_of_ok (blank_at h (by simp [IsBlank]))]
  exact hrun

/-- A later key of an object is read after its comma. -/
theorem nextKey_comma (k : String) (d : Nat) (A : List UInt8 → Prop) :
    Reads (nextKey false) (44 :: 34 :: (k.toList.flatMap Reader.escBytes ++ [34])) (some k) d A := by
  intro c rest hc hA hd
  obtain ⟨c₁, heat, hr₁, hd₁⟩ := eat_step (show c.rest = 44 :: (34 :: (k.toList.flatMap Reader.escBytes ++ [34]) ++ rest)
    by simp [hc])
  have hkey : Reads (string >>= fun x => pure (some x)) (k.toList.flatMap Reader.escBytes ++ [34]) (some k) d A :=
    (string_reads k d A).bind_pure
  have hread : Reads (eat >>= fun _ => string >>= fun x => pure (some x))
      ([34] ++ (k.toList.flatMap Reader.escBytes ++ [34])) (some k) d A :=
    (eat_reads 34 d (fun _ => True)).bind hkey (fun _ _ => trivial)
  obtain ⟨c₂, hrun, hr₂, hd₂⟩ := hread c₁ rest (by simpa using hr₁) hA (hd₁ ▸ hd)
  refine ⟨c₂, ?_, hr₂, hd₂.trans hd₁⟩
  unfold nextKey
  rw [bind_of_ok (blank_at (show c.rest = 44 :: (34 :: (k.toList.flatMap Reader.escBytes ++ [34]) ++ rest)
    by simp [hc]) (by simp [IsBlank]))]
  simp only [Bool.false_eq_true, ↓reduceIte]
  rw [bind_of_ok heat, bind_of_ok (blank_at (show c₁.rest = 34 :: (k.toList.flatMap Reader.escBytes ++ [34] ++ rest)
    by simp [hr₁]) (by simp [IsBlank]))]
  exact hrun

/-- The value reader at an opening bracket or brace runs its nested reader. -/
theorem value_open {b : UInt8} {body : Reader Value} {close : Reader Unit} {fuel d : Nat} {i : List UInt8}
    {a : Value} (hb : (b = 91 ∧ body = elements fuel true [] ∧ close = endArray) ∨
      (b = 123 ∧ body = members fuel true [] ∧ close = endObject))
    (h : Reads (Reader.nested body close) (b :: i) a d Ends) : Reads (value (fuel + 1)) (b :: i) a d Ends := by
  intro c rest hc hends hd
  unfold value
  rcases hb with ⟨rfl, rfl, rfl⟩ | ⟨rfl, rfl, rfl⟩
  · rw [bind_of_ok (blank_at (show c.rest = 91 :: (i ++ rest) by simp [hc]) (by simp [IsBlank]))]
    exact Reads.placed h c rest hc hends hd
  · rw [bind_of_ok (blank_at (show c.rest = 123 :: (i ++ rest) by simp [hc]) (by simp [IsBlank]))]
    exact Reads.placed h c rest hc hends hd

mutual

/-- **The reader reads back what the writer writes.** A value with no doubles, given fuel
for its bytes and room for its nesting, is read from its written bytes as the reader keeps
it (`Value.canon`), wherever a number would end after it. -/
theorem value_written : ∀ (v : Value) (fuel d : Nat), v.plain = true →
    v.write.toUTF8.toList.length ≤ fuel → v.nesting ≤ d →
    Reads (value fuel) v.write.toUTF8.toList v.canon d Ends
  | .null, fuel + 1, d, _, _, _ => value_keyword fuel d Ends (.inl rfl)
  | .bool true, fuel + 1, d, _, _, _ => value_keyword fuel d Ends (.inr (.inl rfl))
  | .bool false, fuel + 1, d, _, _, _ => value_keyword fuel d Ends (.inr (.inr rfl))
  | .number (.nat n), fuel + 1, d, hv, _, _ => by
    have hn : n ≤ wordMax := by simp [Value.plain] at hv; unfold wordMax; omega
    rw [write_nat_bytes]
    exact value_nat fuel d hn
  | .number (.negative n), fuel + 1, d, hv, _, _ => by
    have hn : -Int.pow 2 63 ≤ n ∧ n < 0 := by simpa [Value.plain] using hv
    have hneg : n = -(n.natAbs : Int) := by omega
    have hread := value_negative fuel d (m := n.natAbs) (by omega) (by
      have h63 : Int.pow 2 63 = 9223372036854775808 := rfl
      have h63' : Nat.pow 2 63 = 9223372036854775808 := rfl
      omega)
    rw [← hneg] at hread
    rw [write_negative_bytes hn.2]
    exact hread
  | .string s, fuel + 1, d, _, _, _ => by
    show Reads _ (quoteString s).toUTF8.toList (Value.string s) d Ends
    rw [quoteString_bytes]
    exact value_string fuel d Ends s
  | .array vs, fuel + 1, d + 1, hv, hlen, hnest => by
    have hn : itemsNesting vs ≤ d := by simp [Value.nesting] at hnest; omega
    rw [write_array_bytes] at hlen ⊢
    simp only [List.length_cons, List.length_append] at hlen
    show Reads _ _ (Value.array (canonItems vs)) _ _
    exact value_open (.inl ⟨rfl, rfl, rfl⟩) (Reads.nested (items_first vs fuel d hv (by omega) hn)
      (endArray_reads (d + 1) Ends) (fun _ _ => rfl))
  | .object ms, fuel + 1, d + 1, hv, hlen, hnest => by
    have hn : membersNesting ms ≤ d := by simp [Value.nesting] at hnest; omega
    rw [write_object_bytes] at hlen ⊢
    simp only [List.length_cons, List.length_append] at hlen
    show Reads _ _ (objectOf (canonMembers ms)) _ _
    exact value_open (.inr ⟨rfl, rfl, rfl⟩) (Reads.nested (members_first ms fuel d hv (by omega) hn)
      (endObject_reads (d + 1) Ends) (fun _ _ => rfl))
  | v, 0, d, hv, hlen, _ => by
    obtain ⟨b, r, hbytes, -⟩ := write_head v hv
    rw [hbytes] at hlen
    simp at hlen
  | .array vs, fuel + 1, 0, _, _, hnest => by simp [Value.nesting] at hnest
  | .object ms, fuel + 1, 0, _, _, hnest => by simp [Value.nesting] at hnest

/-- The elements of an array, up to its closing bracket. -/
theorem items_first : ∀ (vs : List Value) (fuel d : Nat), plainItems vs = true →
    (writeItems vs).toUTF8.toList.length < fuel → itemsNesting vs ≤ d →
    Reads (elements fuel true []) (writeItems vs).toUTF8.toList (.array (canonItems vs)) d
      (fun rest => rest.head? = some 93)
  | [], fuel + 1, d, _, _, _ => by
    intro c rest hc hA _
    have hbytes : (writeItems []).toUTF8.toList = [] := by rw [writeItems, utf8_bytes]; rfl
    rw [hbytes, List.nil_append] at hc
    have hclose : c.rest = 93 :: rest.tail := by
      rw [hc]
      cases rest with
      | nil => cases hA
      | cons b r => cases hA; rfl
    refine ⟨c, ?_, hc, rfl⟩
    rw [elements, bind_of_ok (nextElement_close true hclose)]
    rfl
  | v :: vs, fuel + 1, d, hp, hlen, hn => by
    have hv : v.plain = true ∧ plainItems vs = true := by simpa [plainItems] using hp
    have hnest : v.nesting ≤ d ∧ itemsNesting vs ≤ d := by simp [itemsNesting] at hn; omega
    obtain ⟨b, r, hbytes, hblank, h93, h44, -⟩ := write_head v hv.1
    have hpos : 0 < v.write.toUTF8.toList.length := by rw [hbytes]; simp
    rw [writeItems_cons, toUTF8_append] at hlen ⊢
    rw [List.length_append] at hlen
    intro c rest hc hA hd
    have hfirst : c.rest = b :: (r ++ (moreItems vs).toUTF8.toList ++ rest) := by rw [hc, hbytes]; rfl
    -- the first element, then the rest after their commas
    obtain ⟨c₁, hv₁, hr₁, hd₁⟩ := value_written v fuel d hv.1 (by omega) hnest.1 c
      ((moreItems vs).toUTF8.toList ++ rest) (by simp [hc]) (moreItems_ends vs hA) hd
    obtain ⟨c₂, he₂, hr₂, hd₂⟩ :=
      items_more vs fuel d [v.canon] hv.2 (by omega) hnest.2 c₁ rest hr₁ hA (hd₁ ▸ hd)
    refine ⟨c₂, ?_, hr₂, hd₂.trans hd₁⟩
    rw [elements, bind_of_ok (nextElement_first hfirst hblank h93 h44)]
    simp only [↓reduceIte]
    rw [bind_of_ok hv₁]
    simpa [canonItems] using he₂

/-- The elements of an array after the first, each after its comma. -/
theorem items_more : ∀ (vs : List Value) (fuel d : Nat) (acc : List Value), plainItems vs = true →
    (moreItems vs).toUTF8.toList.length < fuel → itemsNesting vs ≤ d →
    Reads (elements fuel false acc) (moreItems vs).toUTF8.toList (.array (acc.reverse ++ canonItems vs)) d
      (fun rest => rest.head? = some 93)
  | [], fuel + 1, d, acc, _, _, _ => by
    intro c rest hc hA _
    have hbytes : (moreItems []).toUTF8.toList = [] := by rw [moreItems, utf8_bytes]; rfl
    rw [hbytes, List.nil_append] at hc
    have hclose : c.rest = 93 :: rest.tail := by
      rw [hc]
      cases rest with
      | nil => cases hA
      | cons b r => cases hA; rfl
    refine ⟨c, ?_, hc, rfl⟩
    rw [elements, bind_of_ok (nextElement_close false hclose)]
    simp [canonItems, pure_apply]
  | v :: vs, fuel + 1, d, acc, hp, hlen, hn => by
    have hv : v.plain = true ∧ plainItems vs = true := by simpa [plainItems] using hp
    have hnest : v.nesting ≤ d ∧ itemsNesting vs ≤ d := by simp [itemsNesting] at hn; omega
    obtain ⟨b, r, hbytes, hblank, h93, -, -⟩ := write_head v hv.1
    have hpos : 0 < v.write.toUTF8.toList.length := by rw [hbytes]; simp
    rw [moreItems_cons_bytes] at hlen ⊢
    simp only [List.length_cons, List.length_append] at hlen
    intro c rest hc hA hd
    obtain ⟨c₁, hn₁, hr₁, hd₁⟩ := nextElement_comma
      (show c.rest = 44 :: b :: (r ++ (moreItems vs).toUTF8.toList ++ rest) by rw [hc, hbytes]; rfl) hblank h93
    obtain ⟨c₂, hv₂, hr₂, hd₂⟩ := value_written v fuel d hv.1 (by omega) hnest.1 c₁
      ((moreItems vs).toUTF8.toList ++ rest) (by rw [hr₁, hbytes, List.cons_append, List.append_assoc])
      (moreItems_ends vs hA) (hd₁ ▸ hd)
    obtain ⟨c₃, he₃, hr₃, hd₃⟩ :=
      items_more vs fuel d (v.canon :: acc) hv.2 (by omega) hnest.2 c₂ rest hr₂ hA (by omega)
    refine ⟨c₃, ?_, hr₃, by omega⟩
    rw [elements, bind_of_ok hn₁]
    simp only [↓reduceIte]
    rw [bind_of_ok hv₂]
    simpa [canonItems] using he₃
  | _, 0, _, _, _, hlen, _ => absurd hlen (Nat.not_lt_zero _)

/-- The members of an object, up to its closing brace. -/
theorem members_first : ∀ (ms : List (String × Value)) (fuel d : Nat), plainMembers ms = true →
    (writeMembers ms).toUTF8.toList.length < fuel → membersNesting ms ≤ d →
    Reads (members fuel true []) (writeMembers ms).toUTF8.toList (objectOf (canonMembers ms)) d
      (fun rest => rest.head? = some 125)
  | [], fuel + 1, d, _, _, _ => by
    intro c rest hc hA _
    have hbytes : (writeMembers []).toUTF8.toList = [] := by rw [writeMembers, utf8_bytes]; rfl
    rw [hbytes, List.nil_append] at hc
    have hclose : c.rest = 125 :: rest.tail := by
      rw [hc]
      cases rest with
      | nil => cases hA
      | cons b r => cases hA; rfl
    refine ⟨c, ?_, hc, rfl⟩
    rw [members, bind_of_ok (nextKey_close true hclose)]
    rfl
  | (k, v) :: ms, fuel + 1, d, hp, hlen, hn => by
    have hv : v.plain = true ∧ plainMembers ms = true := by simpa [plainMembers] using hp
    have hnest : v.nesting ≤ d ∧ membersNesting ms ≤ d := by simp [membersNesting] at hn; omega
    rw [writeMembers_cons_bytes] at hlen ⊢
    simp only [List.length_cons, List.length_append] at hlen
    intro c rest hc hA hd
    -- the key, the colon, the value, then the other members after their commas
    obtain ⟨c₁, hk₁, hr₁, hd₁⟩ := nextKey_first k d (fun _ => True) c
      (58 :: (v.write.toUTF8.toList ++ (moreMembers ms).toUTF8.toList) ++ rest) (by simp [hc]) trivial hd
    obtain ⟨c₂, hc₂, hr₂, hd₂⟩ := colon_step (by simp [hr₁] : c₁.rest = 58 ::
      (v.write.toUTF8.toList ++ ((moreMembers ms).toUTF8.toList ++ rest)))
    obtain ⟨c₃, hv₃, hr₃, hd₃⟩ := value_written v fuel d hv.1 (by omega) hnest.1 c₂
      ((moreMembers ms).toUTF8.toList ++ rest) hr₂ (moreMembers_ends ms hA) (by omega)
    obtain ⟨c₄, he₄, hr₄, hd₄⟩ :=
      members_more ms fuel d [(k, v.canon)] hv.2 (by omega) hnest.2 c₃ rest hr₃ hA (by omega)
    refine ⟨c₄, ?_, hr₄, by omega⟩
    rw [members, bind_of_ok hk₁]
    dsimp only
    rw [bind_of_ok hc₂, bind_of_ok hv₃]
    simpa [canonMembers] using he₄
  | _, 0, _, _, hlen, _ => absurd hlen (Nat.not_lt_zero _)

/-- The members of an object after the first, each after its comma. -/
theorem members_more : ∀ (ms : List (String × Value)) (fuel d : Nat) (acc : List (String × Value)),
    plainMembers ms = true → (moreMembers ms).toUTF8.toList.length < fuel → membersNesting ms ≤ d →
    Reads (members fuel false acc) (moreMembers ms).toUTF8.toList (objectOf (acc.reverse ++ canonMembers ms)) d
      (fun rest => rest.head? = some 125)
  | [], fuel + 1, d, acc, _, _, _ => by
    intro c rest hc hA _
    have hbytes : (moreMembers []).toUTF8.toList = [] := by rw [moreMembers, utf8_bytes]; rfl
    rw [hbytes, List.nil_append] at hc
    have hclose : c.rest = 125 :: rest.tail := by
      rw [hc]
      cases rest with
      | nil => cases hA
      | cons b r => cases hA; rfl
    refine ⟨c, ?_, hc, rfl⟩
    rw [members, bind_of_ok (nextKey_close false hclose)]
    simp [canonMembers, pure_apply]
  | (k, v) :: ms, fuel + 1, d, acc, hp, hlen, hn => by
    have hv : v.plain = true ∧ plainMembers ms = true := by simpa [plainMembers] using hp
    have hnest : v.nesting ≤ d ∧ membersNesting ms ≤ d := by simp [membersNesting] at hn; omega
    rw [moreMembers_cons_bytes] at hlen ⊢
    simp only [List.length_cons, List.length_append] at hlen
    intro c rest hc hA hd
    obtain ⟨c₁, hk₁, hr₁, hd₁⟩ := nextKey_comma k d (fun _ => True) c
      (58 :: (v.write.toUTF8.toList ++ (moreMembers ms).toUTF8.toList) ++ rest) (by simp [hc]) trivial hd
    obtain ⟨c₂, hc₂, hr₂, hd₂⟩ := colon_step (by simp [hr₁] : c₁.rest = 58 ::
      (v.write.toUTF8.toList ++ ((moreMembers ms).toUTF8.toList ++ rest)))
    obtain ⟨c₃, hv₃, hr₃, hd₃⟩ := value_written v fuel d hv.1 (by omega) hnest.1 c₂
      ((moreMembers ms).toUTF8.toList ++ rest) hr₂ (moreMembers_ends ms hA) (by omega)
    obtain ⟨c₄, he₄, hr₄, hd₄⟩ :=
      members_more ms fuel d ((k, v.canon) :: acc) hv.2 (by omega) hnest.2 c₃ rest hr₃ hA (by omega)
    refine ⟨c₄, ?_, hr₄, by omega⟩
    rw [members, bind_of_ok hk₁]
    dsimp only
    rw [bind_of_ok hc₂, bind_of_ok hv₃]
    simpa [canonMembers] using he₄
  | _, 0, _, _, _, hlen, _ => absurd hlen (Nat.not_lt_zero _)

end

theorem fuel_apply (c : Cursor) : fuel c = .ok (2 * c.rest.length + 2) c := rfl

/-- Any value ahead is read back from what the writer writes. -/
theorem anyValue_written (v : Value) (d : Nat) (hv : v.plain = true) (hn : v.nesting ≤ d) :
    Reads anyValue v.write.toUTF8.toList v.canon d Ends := by
  intro c rest hc hA hd
  unfold anyValue
  rw [bind_of_ok (fuel_apply c)]
  -- the fuel counts every byte ahead, twice over
  have hlen : v.write.toUTF8.toList.length ≤ 2 * c.rest.length + 2 := by
    rw [hc, List.length_append]
    omega
  exact value_written v _ d hv hlen hn c rest hc hA hd

end TaskConsole.Json.Reader
