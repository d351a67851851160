import TaskConsole.Proofs.Json.Reads
import TaskConsole.Json.Write

/-! Strings and numbers read back: the reader takes the writer's escaped string bytes
back to the text (`string_reads`), and a word or negative word back as written. -/

namespace TaskConsole.Json.Reader

/-! ## Strings -/

/-- A byte that stands for itself inside a string: no control, quote or backslash. -/
def Literal (b : UInt8) : Prop := 32 ≤ b.toNat ∧ b ≠ 34 ∧ b ≠ 92

/-- Bytes that stand for themselves are taken one per round of the string loop. -/
theorem stringBytes_literal :
    ∀ (bs : List UInt8) (fuel : Nat) (acc more : List UInt8) (c : Cursor), (∀ b ∈ bs, Literal b) →
      bs.length ≤ fuel → c.rest = bs ++ more →
      ∃ c', c'.rest = more ∧ c'.depth = c.depth ∧
        stringBytes fuel acc c = stringBytes (fuel - bs.length) (bs.reverse ++ acc) c'
  | [], fuel, acc, more, c, _, _, hc => ⟨c, hc, rfl, by simp⟩
  | b :: bs, fuel + 1, acc, more, c, hlit, hlen, hc => by
    obtain ⟨h32, h34, h92⟩ := hlit b List.mem_cons_self
    obtain ⟨c₁, heat, hc₁, hd₁⟩ := eat_step (show c.rest = b :: (bs ++ more) by simp [hc])
    obtain ⟨c₂, hc₂, hd₂, hloop⟩ := stringBytes_literal bs fuel (b :: acc) more c₁
      (fun x hx => hlit x (List.mem_cons_of_mem _ hx)) (by simp at hlen; omega) hc₁
    refine ⟨c₂, hc₂, hd₂.trans hd₁, ?_⟩
    have hnot : ¬ b < 32 := by
      intro hlt
      have := UInt8.lt_iff_toNat_lt.mp hlt
      simp at this
      omega
    rw [stringBytes, bind_of_ok (show peek c = .ok (some b) c by rw [peek_apply, hc]; rfl)]
    -- the byte is no quote, backslash or control: it is kept and the loop goes on
    simpa [hnot, bind_of_ok heat] using hloop

/-- A round of the string loop at a backslash takes the escape after it. -/
theorem stringBytes_escape {esc out more : List UInt8} {fuel : Nat} {acc : List UInt8} {c : Cursor}
    (hc : c.rest = 92 :: (esc ++ more))
    (hesc : ∀ c : Cursor, c.rest = esc ++ more →
      ∃ c', escape c = .ok out c' ∧ c'.rest = more ∧ c'.depth = c.depth) :
    ∃ c', c'.rest = more ∧ c'.depth = c.depth ∧
      stringBytes (fuel + 1) acc c = stringBytes fuel (out.reverse ++ acc) c' := by
  obtain ⟨c₁, heat, hc₁, hd₁⟩ := eat_step hc
  obtain ⟨c₂, hescape, hc₂, hd₂⟩ := hesc c₁ hc₁
  refine ⟨c₂, hc₂, hd₂.trans hd₁, ?_⟩
  rw [stringBytes, bind_of_ok (show peek c = .ok (some 92) c by rw [peek_apply, hc]; rfl)]
  simp only [bind_of_ok heat, bind_of_ok hescape]

/-- The short escapes the writer makes read back as the bytes of their character. -/
theorem escape_short {c : Char} {x : UInt8} {more : List UInt8} {cur : Cursor}
    (hc : (c = '"' ∧ x = 34) ∨ (c = '\\' ∧ x = 92) ∨ (c = '\x08' ∧ x = 98) ∨ (c = '\x0c' ∧ x = 102) ∨
      (c = '\n' ∧ x = 110) ∨ (c = '\r' ∧ x = 114) ∨ (c = '\t' ∧ x = 116))
    (h : cur.rest = x :: more) :
    ∃ cur', escape cur = .ok (String.utf8EncodeChar c) cur' ∧ cur'.rest = more ∧ cur'.depth = cur.depth := by
  obtain ⟨cur', hn, hr, hd⟩ := next_step h
  refine ⟨cur', ?_, hr, hd⟩
  rw [escape, bind_of_ok hn]
  rcases hc with ⟨rfl, rfl⟩ | ⟨rfl, rfl⟩ | ⟨rfl, rfl⟩ | ⟨rfl, rfl⟩ | ⟨rfl, rfl⟩ | ⟨rfl, rfl⟩ | ⟨rfl, rfl⟩ <;> rfl

theorem hexEscape_step {a b d e : UInt8} {va vb vd ve : Nat} {more : List UInt8} {cur : Cursor}
    (ha : hexValue a = some va) (hb : hexValue b = some vb) (hd : hexValue d = some vd)
    (he : hexValue e = some ve) (h : cur.rest = a :: b :: d :: e :: more) :
    ∃ cur', hexEscape cur = .ok (((va * 16 + vb) * 16 + vd) * 16 + ve) cur' ∧ cur'.rest = more ∧
      cur'.depth = cur.depth := by
  obtain ⟨c₁, h₁, hr₁, hd₁⟩ := eat_step h
  obtain ⟨c₂, h₂, hr₂, hd₂⟩ := eat_step hr₁
  obtain ⟨c₃, h₃, hr₃, hd₃⟩ := eat_step hr₂
  obtain ⟨c₄, h₄, hr₄, hd₄⟩ := eat_step hr₃
  refine ⟨c₄, ?_, hr₄, by rw [hd₄, hd₃, hd₂, hd₁]⟩
  unfold hexEscape
  rw [bind_of_ok (show (get : Reader Cursor) cur = .ok cur cur from rfl)]
  simp only [h, bind_of_ok h₁, bind_of_ok h₂, bind_of_ok h₃, bind_of_ok h₄, ha, hb, hd, he]
  rfl

theorem utf8_eq (n : Nat) : utf8 n = String.utf8EncodeChar (Char.ofNat n) := by
  rw [utf8, utf8_bytes, String.toList_singleton, List.flatMap_singleton]

/-- The four hexadecimal digits the writer gives a control character. -/
theorem hex4_controls : ∀ n, n < 32 →
    ((hex4 n).flatMap String.utf8EncodeChar).map hexValue = [some 0, some 0, some (n / 16), some (n % 16)] := by
  decide +kernel

/-- A control character written as a `\\u` escape reads back as its byte. -/
theorem escape_control {c : Char} {more : List UInt8} {cur : Cursor} (hc : c.toNat < 0x20)
    (h : cur.rest = 117 :: ((hex4 c.toNat).flatMap String.utf8EncodeChar ++ more)) :
    ∃ cur', escape cur = .ok (String.utf8EncodeChar c) cur' ∧ cur'.rest = more ∧ cur'.depth = cur.depth := by
  obtain ⟨cur₁, hn, hr₁, hd₁⟩ := next_step h
  have hhex := hex4_controls c.toNat hc
  -- the four digit bytes, each a hexadecimal digit
  generalize (hex4 c.toNat).flatMap String.utf8EncodeChar = bs at hhex hr₁
  rcases bs with _ | ⟨a, _ | ⟨b, _ | ⟨d, _ | ⟨e, _ | ⟨f, l⟩⟩⟩⟩⟩ <;> simp at hhex
  obtain ⟨ha, hb, hd, he⟩ := hhex
  obtain ⟨cur₂, hx, hr₂, hd₂⟩ := hexEscape_step ha hb hd he (by simpa using hr₁)
  refine ⟨cur₂, ?_, hr₂, hd₂.trans hd₁⟩
  have hval : ((0 * 16 + 0) * 16 + c.toNat / 16) * 16 + c.toNat % 16 = c.toNat := by omega
  rw [escape, bind_of_ok hn]
  show unicodeEscape cur₁ = _
  unfold unicodeEscape
  rw [bind_of_ok hx, hval, if_neg (by omega), if_pos (by omega), utf8_eq, Char.ofNat_toNat]
  rfl

theorem utf8EncodeChar_of_lt {c : Char} (h : c.toNat < 0x80) :
    String.utf8EncodeChar c = [UInt8.ofNat c.toNat] := by
  have h' : c.val.toNat ≤ 0x7f := Nat.le_of_lt_succ h
  unfold String.utf8EncodeChar
  rw [if_pos h']
  rfl

/-- The bytes of a character outside ASCII are all high. -/
theorem utf8EncodeChar_high {c : Char} (h : 0x80 ≤ c.toNat) :
    ∀ b ∈ String.utf8EncodeChar c, 0x80 ≤ b.toNat := by
  have h' : ¬ c.val.toNat ≤ 0x7f := by
    show ¬ c.toNat ≤ 0x7f
    omega
  unfold String.utf8EncodeChar
  rw [if_neg h']
  -- every lead and continuation byte has its top bit set
  split
  · intro b hb
    simp only [List.mem_cons, List.not_mem_nil, or_false] at hb
    rcases hb with rfl | rfl <;> simp [UInt8.toNat_ofNat] <;> omega
  · split
    · intro b hb
      simp only [List.mem_cons, List.not_mem_nil, or_false] at hb
      rcases hb with rfl | rfl | rfl <;> simp [UInt8.toNat_ofNat] <;> omega
    · intro b hb
      simp only [List.mem_cons, List.not_mem_nil, or_false] at hb
      rcases hb with rfl | rfl | rfl | rfl <;> simp [UInt8.toNat_ofNat] <;> omega

/-- Outside the quote, the backslash and the controls, every byte of a character's
encoding stands for itself. -/
theorem literal_utf8 {c : Char} (h : 0x20 ≤ c.toNat) (hq : c ≠ '"') (hb : c ≠ '\\') :
    ∀ b ∈ String.utf8EncodeChar c, Literal b := by
  by_cases hlt : c.toNat < 0x80
  · rw [utf8EncodeChar_of_lt hlt]
    intro b hmem
    rw [List.mem_singleton] at hmem
    subst hmem
    have hbyte : (UInt8.ofNat c.toNat).toNat = c.toNat := by
      simp
      omega
    have hq' : c.toNat ≠ 34 := fun e => hq (by rw [← Char.ofNat_toNat c, e])
    have hb' : c.toNat ≠ 92 := fun e => hb (by rw [← Char.ofNat_toNat c, e])
    refine ⟨by omega, fun e => hq' ?_, fun e => hb' ?_⟩
    · rw [← hbyte, e]; rfl
    · rw [← hbyte, e]; rfl
  · intro b hmem
    have := utf8EncodeChar_high (by omega) b hmem
    refine ⟨by omega, fun e => ?_, fun e => ?_⟩ <;> (subst e; simp at this)

/-- The bytes the writer gives a character inside a string. -/
def escBytes (c : Char) : List UInt8 := (escapeChar c).flatMap String.utf8EncodeChar

/-- What the writer makes of a character: a short escape, a `\\u` escape of a control,
or the character itself. -/
theorem escBytes_cases (c : Char) :
    (∃ x, escBytes c = [92, x] ∧ ((c = '"' ∧ x = 34) ∨ (c = '\\' ∧ x = 92) ∨ (c = '\x08' ∧ x = 98) ∨
      (c = '\x0c' ∧ x = 102) ∨ (c = '\n' ∧ x = 110) ∨ (c = '\r' ∧ x = 114) ∨ (c = '\t' ∧ x = 116))) ∨
    (c.toNat < 0x20 ∧ escBytes c = 92 :: 117 :: (hex4 c.toNat).flatMap String.utf8EncodeChar) ∨
    (0x20 ≤ c.toNat ∧ c ≠ '"' ∧ c ≠ '\\' ∧ escBytes c = String.utf8EncodeChar c) := by
  unfold escBytes escapeChar
  split
  -- the seven short escapes
  any_goals exact .inl ⟨_, rfl, by decide⟩
  -- the rest: a control, or a character that stands for itself
  next hq hb _ _ _ _ _ =>
    split
    · next hlt => exact .inr (.inl ⟨hlt, rfl⟩)
    · next hge => exact .inr (.inr ⟨by omega, hq, hb, by simp⟩)

/-- The string loop takes the escaped bytes of one character back to its encoding, in at
most as many rounds as there are bytes. -/
theorem stringBytes_char (c : Char) (acc : List UInt8) {fuel : Nat} {more : List UInt8} {cur : Cursor}
    (hfuel : (escBytes c).length ≤ fuel) (h : cur.rest = escBytes c ++ more) :
    ∃ cur' fuel', fuel - (escBytes c).length ≤ fuel' ∧ cur'.rest = more ∧ cur'.depth = cur.depth ∧
      stringBytes fuel acc cur = stringBytes fuel' ((String.utf8EncodeChar c).reverse ++ acc) cur' := by
  rcases escBytes_cases c with ⟨x, hbytes, hshort⟩ | ⟨hlt, hbytes⟩ | ⟨hge, hq, hb, hbytes⟩
  · -- a short escape: one round
    rw [hbytes] at hfuel h ⊢
    obtain ⟨fuel, rfl⟩ : ∃ f, fuel = f + 1 := ⟨fuel - 1, by simp at hfuel; omega⟩
    obtain ⟨cur', hr, hd, hloop⟩ := stringBytes_escape
      (show cur.rest = 92 :: ([x] ++ more) by simpa using h) (fun c hc => escape_short hshort hc)
    exact ⟨cur', fuel, by simp, hr, hd, hloop⟩
  · -- a control written as a `\\u` escape: one round
    rw [hbytes] at hfuel h ⊢
    obtain ⟨fuel, rfl⟩ : ∃ f, fuel = f + 1 := ⟨fuel - 1, by simp at hfuel; omega⟩
    obtain ⟨cur', hr, hd, hloop⟩ := stringBytes_escape
      (show cur.rest = 92 :: (117 :: _ ++ more) by simpa using h) (fun c hc => escape_control hlt hc)
    exact ⟨cur', fuel, by simp, hr, hd, hloop⟩
  · -- a character that stands for itself: one round a byte
    rw [hbytes] at hfuel h ⊢
    obtain ⟨cur', hr, hd, hloop⟩ := stringBytes_literal _ fuel acc more cur (literal_utf8 hge hq hb) hfuel h
    exact ⟨cur', _, Nat.le_refl _, hr, hd, hloop⟩

/-- The string loop reads the escaped characters up to the closing quote back to their
encoding, given a round more than there are bytes. -/
theorem stringBytes_chars :
    ∀ (cs : List Char) (fuel : Nat) (acc more : List UInt8) (cur : Cursor),
      (cs.flatMap escBytes).length < fuel → cur.rest = cs.flatMap escBytes ++ 34 :: more →
      ∃ cur', stringBytes fuel acc cur = .ok (acc.reverse ++ cs.flatMap String.utf8EncodeChar) cur' ∧
        cur'.rest = more ∧ cur'.depth = cur.depth
  | [], fuel + 1, acc, more, cur, _, h => by
    obtain ⟨cur', heat, hr, hd⟩ := eat_step (show cur.rest = 34 :: more by simpa using h)
    refine ⟨cur', ?_, hr, hd⟩
    rw [stringBytes, bind_of_ok (show peek cur = .ok (some 34) cur by rw [peek_apply, h]; rfl)]
    simp only [List.flatMap_nil, List.append_nil]
    rw [bind_of_ok heat]
    rfl
  | c :: cs, fuel, acc, more, cur, hfuel, h => by
    simp only [List.flatMap_cons, List.length_append] at hfuel
    obtain ⟨cur₁, fuel₁, hf₁, hr₁, hd₁, hloop⟩ := stringBytes_char c acc
      (show (escBytes c).length ≤ fuel by omega)
      (show cur.rest = escBytes c ++ (cs.flatMap escBytes ++ 34 :: more) by simpa using h)
    obtain ⟨cur₂, hrun, hr₂, hd₂⟩ := stringBytes_chars cs fuel₁ _ more cur₁ (by omega) hr₁
    refine ⟨cur₂, ?_, hr₂, hd₂.trans hd₁⟩
    rw [hloop, hrun]
    simp

/-- A string the writer wrote is read back, from after its opening quote to after its
closing one. -/
theorem string_reads (s : String) (d : Nat) (A : List UInt8 → Prop) :
    Reads string (s.toList.flatMap escBytes ++ [34]) s d A := by
  intro cur rest h _ _
  obtain ⟨cur', hrun, hr, hd⟩ := stringBytes_chars s.toList (cur.rest.length + 1) [] rest cur
    (by rw [h, List.length_append, List.length_append]; omega) (by rw [h]; simp)
  refine ⟨cur', ?_, hr, hd⟩
  unfold string
  rw [bind_of_ok (show (get : Reader Cursor) cur = .ok cur cur from rfl), bind_of_ok hrun]
  simp only [List.reverse_nil, List.nil_append, fromUTF8_encoded, String.ofList_toList]
  rfl

/-! ## Numbers -/

/-- Bytes after which a number ends: no digit, point or exponent comes next. -/
def Ends (rest : List UInt8) : Prop :=
  ∀ b ∈ rest.head?, isDigit b = false ∧ b ≠ 46 ∧ b ≠ 101 ∧ b ≠ 69

theorem overflows_false {a d bound : Nat} (hd : d ≤ 9) (h : a * 10 + d ≤ bound) :
    overflows a d bound = false := by
  simp only [overflows, Bool.and_eq_false_iff, Bool.or_eq_false_iff, decide_eq_false_iff_not]
  omega

/-- Where a number ends, its digits read so far are a whole number. -/
theorem afterDigits_nat (s : Nat) {c : Cursor} (h : Ends c.rest) :
    afterDigits true s c = .ok (.nat s) c := by
  unfold afterDigits
  rw [bind_of_ok (peek_apply c)]
  cases hc : c.rest with
  | nil => rfl
  | cons b r =>
    obtain ⟨-, h46, h101, h69⟩ := h b (by simp [hc])
    simp [h46, h101, h69]
    rfl

/-- Where a number after a minus ends, its digits read so far are a negative whole number,
if they fit a signed word. -/
theorem afterDigits_negative {s : Nat} (hpos : 0 < s) (hle : s ≤ Nat.pow 2 63) {c : Cursor}
    (h : Ends c.rest) : afterDigits false s c = .ok (.negative (-(s : Int))) c := by
  have hs : (s == 0) = false := by simp; omega
  unfold afterDigits
  rw [bind_of_ok (peek_apply c)]
  cases hc : c.rest with
  | nil => simp [hs, hle]; rfl
  | cons b r =>
    obtain ⟨-, h46, h101, h69⟩ := h b (by simp [hc])
    simp [h46, h101, h69, hs, hle]
    rfl

/-- The code of a decimal digit, in numbers. -/
theorem digit_bounds {d : Char} (h : d.isDigit = true) : 48 ≤ d.toNat ∧ d.toNat ≤ 57 :=
  Char.isDigit_iff_toNat.mp h

theorem utf8EncodeChar_digit {d : Char} (h : d.isDigit = true) :
    String.utf8EncodeChar d = [UInt8.ofNat d.toNat] :=
  utf8EncodeChar_of_lt (by have := digit_bounds h; omega)

theorem isDigit_byte {d : Char} (h : d.isDigit = true) : isDigit (UInt8.ofNat d.toNat) = true := by
  have := digit_bounds h
  simp [isDigit, UInt8.le_iff_toNat_le]
  omega

theorem digit_byte {d : Char} (h : d.isDigit = true) : digit (UInt8.ofNat d.toNat) = d.toNat - 48 := by
  have := digit_bounds h
  simp [digit]
  omega

/-- A number's decimal digits start with a digit. -/
theorem toDigits_cons (n : Nat) : ∃ e es, Nat.toDigits 10 n = e :: es ∧ e.isDigit = true := by
  cases h : Nat.toDigits 10 n with
  | nil => exact absurd h Nat.toDigits_ne_nil
  | cons e es =>
    exact ⟨e, es, rfl, Nat.isDigit_of_mem_toDigits (b := 10) (by decide) (by decide)
      (by rw [h]; exact List.mem_cons_self)⟩

/-- A digit byte is none of the bytes that open or close anything else. -/
theorem digitByte_ne {e : Char} (he : e.isDigit = true) {b : UInt8} (hb : b.toNat < 48 ∨ 57 < b.toNat) :
    UInt8.ofNat e.toNat ≠ b := by
  have := digit_bounds he
  intro h
  have := congrArg UInt8.toNat h
  simp at this
  omega

/-- A digit's byte is no blank. -/
theorem digitByte_not_blank {e : Char} (he : e.isDigit = true) : ¬ IsBlank (UInt8.ofNat e.toNat) := by
  simp only [IsBlank, not_or]
  exact ⟨digitByte_ne he (by decide), digitByte_ne he (by decide), digitByte_ne he (by decide),
    digitByte_ne he (by decide)⟩

/-- Digits never lower the value read so far. -/
theorem le_ofDigitChars (ds : List Char) (s : Nat) : s ≤ Nat.ofDigitChars 10 ds s := by
  rw [Nat.ofDigitChars_eq_ofDigitChars_zero]
  have := Nat.one_le_two_pow (n := ds.length)
  have h10 : 1 ≤ 10 ^ ds.length := Nat.one_le_pow _ _ (by omega)
  calc s = 1 * s := (Nat.one_mul s).symm
    _ ≤ 10 ^ ds.length * s := Nat.mul_le_mul_right s h10
    _ ≤ _ := Nat.le_add_right _ _

/-- The digit loop reads decimal digits up to where the number ends, with a round for
each digit, as long as the value stays within a word. -/
theorem go_digits (positive : Bool) :
    ∀ (ds : List Char) (fuel s : Nat) (c : Cursor) (rest : List UInt8),
      (∀ d ∈ ds, d.isDigit = true) → ds.length ≤ fuel →
      c.rest = ds.flatMap String.utf8EncodeChar ++ rest → Ends rest →
      Nat.ofDigitChars 10 ds s ≤ wordMax →
      ∃ c', c'.rest = rest ∧ c'.depth = c.depth ∧
        number.go positive fuel s c = afterDigits positive (Nat.ofDigitChars 10 ds s) c'
  | [], fuel, s, c, rest, _, _, hc, hends, _ => by
    refine ⟨c, by simpa using hc, rfl, ?_⟩
    cases fuel with
    | zero => rfl
    | succ fuel =>
      unfold number.go
      rw [bind_of_ok (peek_apply c)]
      simp only [List.flatMap_nil, List.nil_append] at hc
      cases hr : c.rest with
      | nil => rfl
      | cons b r =>
        have hb := (hends b (by simp [← hc, hr])).1
        simp [hb]
  | d :: ds, fuel + 1, s, c, rest, hdig, hlen, hc, hends, hmax => by
    have hd := hdig d List.mem_cons_self
    have hstep : Nat.ofDigitChars 10 (d :: ds) s = Nat.ofDigitChars 10 ds (s * 10 + digit (UInt8.ofNat d.toNat)) := by
      rw [Nat.ofDigitChars_cons, digit_byte hd, Nat.mul_comm]
      rfl
    have hbound := le_ofDigitChars ds (s * 10 + digit (UInt8.ofNat d.toNat))
    rw [hstep] at hmax ⊢
    have hrest : c.rest = UInt8.ofNat d.toNat :: (ds.flatMap String.utf8EncodeChar ++ rest) := by
      simp [hc, utf8EncodeChar_digit hd]
    obtain ⟨c₁, heat, hr₁, hd₁⟩ := eat_step hrest
    obtain ⟨c₂, hr₂, hd₂, hgo⟩ := go_digits positive ds fuel _ c₁ rest
      (fun x hx => hdig x (List.mem_cons_of_mem _ hx)) (by simp at hlen; omega) hr₁ hends hmax
    refine ⟨c₂, hr₂, hd₂.trans hd₁, ?_⟩
    have hno : overflows s (digit (UInt8.ofNat d.toNat)) wordMax = false :=
      overflows_false (by rw [digit_byte hd]; have := digit_bounds hd; omega) (by omega)
    unfold number.go
    rw [bind_of_ok (show peek c = .ok (some (UInt8.ofNat d.toNat)) c by rw [peek_apply, hrest]; rfl)]
    simp only [isDigit_byte hd, hno, if_true, Bool.false_eq_true, if_false, bind_of_ok heat]
    exact hgo

theorem length_le_flatMap_utf8 (cs : List Char) : cs.length ≤ (cs.flatMap String.utf8EncodeChar).length := by
  induction cs with
  | nil => simp
  | cons c cs ih =>
    have : 0 < (String.utf8EncodeChar c).length := List.length_pos_iff.mpr String.utf8EncodeChar_ne_nil
    simp only [List.flatMap_cons, List.length_append, List.length_cons]
    omega

/-- A positive number's decimal digits do not start with `0`. -/
theorem toDigits_head {n : Nat} (hn : 0 < n) : ∃ d ds, Nat.toDigits 10 n = d :: ds ∧ d ≠ '0' := by
  induction n using Nat.strongRecOn with
  | ind n ih =>
    by_cases h10 : n < 10
    · refine ⟨_, [], Nat.toDigits_of_lt_base h10, ?_⟩
      have : ∀ m, m < 10 → m ≠ 0 → m.digitChar ≠ '0' := by decide
      exact this n h10 (by omega)
    · obtain ⟨d, ds, hds, hd⟩ := ih (n / 10) (by omega) (by omega)
      rw [Nat.toDigits_of_base_le (by omega) (by omega), hds]
      exact ⟨d, _, rfl, hd⟩

/-- A word's decimal digits are read as that word, where the number ends. -/
theorem number_digits (positive : Bool) {n : Nat} (hn : n ≤ wordMax) {c : Cursor} {rest : List UInt8}
    (hc : c.rest = (Nat.toDigits 10 n).flatMap String.utf8EncodeChar ++ rest) (hends : Ends rest) :
    ∃ c', c'.rest = rest ∧ c'.depth = c.depth ∧ number positive c = afterDigits positive n c' := by
  have hdig : ∀ d ∈ Nat.toDigits 10 n, d.isDigit = true :=
    fun d hd => Nat.isDigit_of_mem_toDigits (by decide) (by decide) hd
  by_cases h0 : n = 0
  · -- a lone zero
    subst h0
    obtain ⟨c₁, hn₁, hr₁, hd₁⟩ := next_step (show c.rest = 48 :: rest by rw [hc, Nat.toDigits_zero]; rfl)
    refine ⟨c₁, hr₁, hd₁, ?_⟩
    unfold number
    rw [bind_of_ok hn₁]
    simp only
    rw [bind_of_ok (peek_apply c₁)]
    cases hr : c₁.rest with
    | nil => rfl
    | cons b r =>
      have hb := (hends b (by simp [← hr₁, hr])).1
      simp [hb]
  · -- a first digit other than zero, then the digit loop
    obtain ⟨d, ds, hds, hd0⟩ := toDigits_head (Nat.pos_of_ne_zero h0)
    have hd := hdig d (by simp [hds])
    have hb48 : UInt8.ofNat d.toNat ≠ 48 := by
      intro e
      apply hd0
      have := digit_bounds hd
      have : d.toNat = 48 := by
        have := congrArg UInt8.toNat e
        simp at this
        omega
      rw [← Char.ofNat_toNat d, this]
    have hrest : c.rest = UInt8.ofNat d.toNat :: (ds.flatMap String.utf8EncodeChar ++ rest) := by
      simp [hc, hds, utf8EncodeChar_digit hd]
    obtain ⟨c₁, hn₁, hr₁, hd₁⟩ := next_step hrest
    have hval : Nat.ofDigitChars 10 ds (digit (UInt8.ofNat d.toNat)) = n := by
      rw [digit_byte hd, ← Nat.ofDigitChars_ten_toDigits (n := n), hds, Nat.ofDigitChars_cons]
      simp
    obtain ⟨c₂, hr₂, hd₂, hgo⟩ := go_digits positive ds c₁.rest.length _ c₁ rest
      (fun x hx => hdig x (by simp [hds, hx]))
      (by rw [hr₁, List.length_append]; have := length_le_flatMap_utf8 ds; omega) hr₁ hends (by rw [hval]; exact hn)
    refine ⟨c₂, hr₂, hd₂.trans hd₁, ?_⟩
    unfold number
    rw [bind_of_ok hn₁]
    simp [isDigit_byte hd]
    rw [bind_of_ok (show (get : Reader Cursor) c₁ = .ok c₁ c₁ from rfl), hgo, hval]

theorem number_nat_reads {n : Nat} (hn : n ≤ wordMax) (d : Nat) :
    Reads (number true) ((Nat.toDigits 10 n).flatMap String.utf8EncodeChar) (.nat n) d Ends := by
  intro c rest hc hends _
  obtain ⟨c', hr, hd, hrun⟩ := number_digits true hn hc hends
  exact ⟨c', by rw [hrun, afterDigits_nat n (hr ▸ hends)], hr, hd⟩

theorem number_negative_reads {m : Nat} (hpos : 0 < m) (hm : m ≤ Nat.pow 2 63) (d : Nat) :
    Reads (number false) ((Nat.toDigits 10 m).flatMap String.utf8EncodeChar) (.negative (-(m : Int))) d Ends := by
  intro c rest hc hends _
  have hmax : m ≤ wordMax := by
    unfold wordMax wordBound
    have : Nat.pow 2 63 < Nat.pow 2 64 := by decide
    omega
  obtain ⟨c', hr, hd, hrun⟩ := number_digits false hmax hc hends
  exact ⟨c', by rw [hrun, afterDigits_negative hpos hm (hr ▸ hends)], hr, hd⟩

end TaskConsole.Json.Reader

