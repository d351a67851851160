import TaskConsole.Proofs.Text.Cut
import TaskConsole.Console.Actions

/-! The range prompt reads exactly the texts typed as two word literals around their
first hyphen (`parseRange_eq_some_iff`), and submitting it loads those lines or
raises the alert (`parseRange_typed_bounds`). -/

namespace TaskConsole

namespace Input

/-- The digits of a word literal: at least one, all decimal, of value `n` below `2^64`. -/
def WordDigits (ds : List Char) (n : Nat) : Prop :=
  ds ≠ [] ∧ (∀ d ∈ ds, d.isDigit = true) ∧ Nat.ofDigitChars 10 ds 0 = n ∧ n < wordBound

/-- `s` is a literal of the word `n`: an optional plus sign, then the digits of `n`. -/
def WordLiteral (s : String) (n : Nat) : Prop :=
  ∃ ds, (s.toList = ds ∨ s.toList = '+' :: ds) ∧ WordDigits ds n

/-- `s` reads as the lines `a` to `b`: cut at its first hyphen, its two sides
without their blank ends are literals of `a` and `b`. -/
def TypedRange (s : String) (a b : Nat) : Prop :=
  ∃ x y : String, s.toList = x.toList ++ '-' :: y.toList ∧ '-' ∉ x.toList ∧
    WordLiteral (Text.trim x) a ∧ WordLiteral (Text.trim y) b

/-! ## Words -/

/-- The fold the reader runs over the digits is their value. -/
theorem foldl_digit_eq_ofDigitChars (ds : List Char) :
    ds.foldl (fun n d => n * 10 + (d.toNat - '0'.toNat)) 0 = Nat.ofDigitChars 10 ds 0 := by
  simp only [Nat.ofDigitChars_eq_foldl, Nat.mul_comm]

/-- The check the reader makes once the sign is stripped accepts exactly the
digits of a word. -/
theorem digits_read_iff {ds : List Char} {n : Nat} :
    (if ds.isEmpty ∨ !ds.all Char.isDigit then none
      else if ds.foldl (fun n d => n * 10 + (d.toNat - '0'.toNat)) 0 < wordBound then
        some (ds.foldl (fun n d => n * 10 + (d.toNat - '0'.toNat)) 0)
      else none) = some n ↔ WordDigits ds n := by
  have hcheck : ¬(ds.isEmpty = true ∨ (!ds.all Char.isDigit) = true) ↔
      ds ≠ [] ∧ ∀ d ∈ ds, d.isDigit = true := by
    simp
  rw [foldl_digit_eq_ofDigitChars]
  constructor
  · intro h
    split at h
    · cases h
    · next hc =>
      obtain ⟨hne, hdig⟩ := hcheck.mp hc
      split at h
      · next hlt =>
        cases h
        exact ⟨hne, hdig, rfl, hlt⟩
      · cases h
  · rintro ⟨hne, hdig, rfl, hlt⟩
    rw [if_neg (hcheck.mpr ⟨hne, hdig⟩)]
    exact if_pos hlt

theorem wordLiteral_plus {s : String} {rest : List Char} {n : Nat} (hs : s.toList = '+' :: rest) :
    WordLiteral s n ↔ WordDigits rest n := by
  constructor
  · rintro ⟨ds, hds | hds, hd⟩
    -- a plus sign is no digit
    · have hplus := hd.2.1 '+' (by rw [← hds, hs]; exact List.mem_cons_self)
      exact absurd hplus (by decide)
    · rw [hs, List.cons.injEq] at hds
      exact hds.2 ▸ hd
  · exact fun hd => ⟨rest, .inr hs, hd⟩

theorem wordLiteral_unsigned {s : String} {n : Nat} (hs : ∀ rest, s.toList = '+' :: rest → False) :
    WordLiteral s n ↔ WordDigits s.toList n := by
  constructor
  · rintro ⟨ds, rfl | hds, hd⟩
    · exact hd
    · exact absurd hds (hs ds)
  · exact fun hd => ⟨s.toList, .inl rfl, hd⟩

/-- A word is read from exactly its literals. -/
theorem parseWord_eq_some_iff {s : String} {n : Nat} : parseWord s = some n ↔ WordLiteral s n := by
  unfold parseWord
  dsimp only
  split
  · next rest hs => rw [digits_read_iff, wordLiteral_plus hs]
  · next hs => rw [digits_read_iff, wordLiteral_unsigned hs]

/-! ## Ranges -/

/-- The prompt reads exactly the texts that read as a range. -/
theorem parseRange_eq_some_iff {s : String} {a b : Nat} : parseRange s = some (a, b) ↔ TypedRange s a b := by
  constructor
  · intro h
    unfold parseRange at h
    cases hsplit : splitOnce s '-' with
    | none => simp [hsplit] at h
    | some p =>
      obtain ⟨x, y⟩ := p
      obtain ⟨hs, hx⟩ := splitOnce_eq_some_iff.mp hsplit
      simp only [hsplit, Option.bind_eq_bind, Option.bind_some, Option.bind_eq_some_iff,
        Option.pure_def, Option.some.injEq, Prod.mk.injEq] at h
      obtain ⟨a', ha, b', hb, rfl, rfl⟩ := h
      exact ⟨x, y, hs, hx, parseWord_eq_some_iff.mp ha, parseWord_eq_some_iff.mp hb⟩
  · rintro ⟨x, y, hs, hx, ha, hb⟩
    have hsplit : splitOnce s '-' = some (x, y) := splitOnce_eq_some_iff.mpr ⟨hs, hx⟩
    simp [parseRange, hsplit, parseWord_eq_some_iff.mpr ha, parseWord_eq_some_iff.mpr hb]

/-- Two words typed as `FROM-TO`, with blank padding around either, read as a range. -/
theorem typedRange_padded {a b : Nat} (ha : a < wordBound) (hb : b < wordBound)
    {p₁ p₂ p₃ p₄ : List Char} (hpad : ∀ c ∈ p₁ ++ p₂ ++ p₃ ++ p₄, Text.isBlank c = true) :
    TypedRange (String.ofList p₁ ++ toString a ++ String.ofList p₂ ++ "-" ++ String.ofList p₃ ++
      toString b ++ String.ofList p₄) a b := by
  have hblank : ∀ p ∈ [p₁, p₂, p₃, p₄], ∀ c ∈ p, Text.isBlank c = true := by
    simp only [List.mem_append] at hpad
    simp only [List.mem_cons, List.not_mem_nil, or_false]
    rintro p (rfl | rfl | rfl | rfl) c hc <;> exact hpad c (by simp [hc])
  have hword : ∀ n, n < wordBound → WordLiteral (toString n) n := fun n hn =>
    parseWord_eq_some_iff.mp (parseWord_toString hn)
  -- neither the padding nor the digits hold a hyphen
  have hdash : '-' ∉ p₁ ++ (toString a).toList ++ p₂ := by
    intro h
    simp only [List.mem_append] at h
    rcases h with (h | h) | h
    · exact absurd (hblank p₁ (by simp) '-' h) (by decide)
    · exact absurd (Nat.isDigit_of_mem_toDigits (by decide) (by decide) (toList_toString a ▸ h)) (by decide)
    · exact absurd (hblank p₂ (by simp) '-' h) (by decide)
  refine ⟨String.ofList (p₁ ++ (toString a).toList ++ p₂), String.ofList (p₃ ++ (toString b).toList ++ p₄),
    ?_, by rwa [String.toList_ofList], ?_, ?_⟩
  · simp [String.toList_append]
  · rw [trim_padded_toString (hblank p₁ (by simp)) (hblank p₂ (by simp))]
    exact hword a ha
  · rw [trim_padded_toString (hblank p₃ (by simp)) (hblank p₄ (by simp))]
    exact hword b hb

end Input

namespace Console

open Input

/-- The typed bounds are the ones the log window is asked to load. -/
theorem submitRange_window {c : Console} {a b : Nat} (h : TypedRange c.rangeField.text a b) :
    c.submitRange.window = ((c.window.loadRange a b).toOption.map Prod.fst).getD c.window := by
  unfold submitRange
  dsimp only
  rw [parseRange_eq_some_iff.mpr h]
  dsimp only
  cases c.window.loadRange a b with
  | error e => rfl
  | ok r =>
    obtain ⟨w, t⟩ := r
    cases t <;> rfl

/-- A text that reads as no range raises the alert and changes nothing else but
closing the prompt. -/
theorem submitRange_untyped {c : Console} (h : ∀ a b, ¬TypedRange c.rangeField.text a b) :
    c.submitRange = { c with mode := .normal, alert := some "Enter a line range as FROM-TO" } := by
  have hnone : parseRange c.rangeField.text = none := by
    cases hp : parseRange c.rangeField.text with
    | none => rfl
    | some r => exact absurd (parseRange_eq_some_iff.mp hp) (h r.1 r.2)
  unfold submitRange
  dsimp only
  rw [hnone]

end Console

open Input in
/-- The prompt inverts the `FROM-TO` format, and submitting it loads exactly the
typed lines or raises the alert. -/
theorem parseRange_typed_bounds :
    (∀ (a b : Nat) (p₁ p₂ p₃ p₄ : List Char), a < wordBound → b < wordBound →
      (∀ c ∈ p₁ ++ p₂ ++ p₃ ++ p₄, Text.isBlank c = true) →
      parseRange (String.ofList p₁ ++ toString a ++ String.ofList p₂ ++ "-" ++ String.ofList p₃ ++
        toString b ++ String.ofList p₄) = some (a, b)) ∧
    (∀ (s : String) (a b : Nat), parseRange s = some (a, b) → TypedRange s a b) ∧
    (∀ (c : Console) (a b : Nat), TypedRange c.rangeField.text a b →
      c.submitRange.window = ((c.window.loadRange a b).toOption.map Prod.fst).getD c.window) ∧
    (∀ c : Console, (∀ a b, ¬TypedRange c.rangeField.text a b) →
      c.submitRange = { c with mode := .normal, alert := some "Enter a line range as FROM-TO" }) :=
  ⟨fun _ _ _ _ _ _ ha hb hpad => parseRange_eq_some_iff.mpr (typedRange_padded ha hb hpad),
    fun _ _ _ => parseRange_eq_some_iff.mp,
    fun _ _ _ => Console.submitRange_window,
    fun _ => Console.submitRange_untyped⟩

open Input in
theorem parseRange_typed_bounds_at_prompt :
    100 < wordBound ∧ 200 < wordBound ∧
      parseRange (String.ofList [' '] ++ toString 100 ++ String.ofList [] ++ "-" ++ String.ofList [' '] ++
        toString 200 ++ String.ofList []) = some (100, 200) ∧
      TypedRange (String.ofList [' '] ++ toString 100 ++ String.ofList [] ++ "-" ++ String.ofList [' '] ++
        toString 200 ++ String.ofList []) 100 200 ∧
      TypedRange ({ lines := [['5', '-', '9']] } : TextField).text 5 9 ∧
      ({ tasks := TaskList.new 20, window := Window.new {}, rangeField := { lines := [['5', '-', '9']] } } : Console).submitRange.window =
        (((Window.new {}).loadRange 5 9).toOption.map Prod.fst).getD (Window.new {}) ∧
      (∀ a b, ¬TypedRange ({ lines := [['5']] } : TextField).text a b) ∧
      ({ tasks := TaskList.new 20, window := Window.new {}, rangeField := { lines := [['5']] } } : Console).submitRange =
        { tasks := TaskList.new 20, window := Window.new {}, rangeField := { lines := [['5']] }, alert := some "Enter a line range as FROM-TO" } := by
  have h100 : 100 < wordBound := by decide
  have h200 : 200 < wordBound := by decide
  have hread := parseRange_typed_bounds.1 100 200 [' '] [] [' '] [] h100 h200
    (by simp only [List.append_nil, List.mem_append, List.mem_singleton]; rintro c (rfl | rfl) <;> rfl)
  have h59 : TypedRange ({ lines := [['5', '-', '9']] } : TextField).text 5 9 :=
    parseRange_eq_some_iff.mp (by decide +kernel)
  have h5 : ∀ a b, ¬TypedRange ({ lines := [['5']] } : TextField).text a b := fun a b h => by
    have hnone : parseRange ({ lines := [['5']] } : TextField).text = none := by decide +kernel
    exact absurd (parseRange_eq_some_iff.mpr h) (by rw [hnone]; simp)
  exact ⟨h100, h200, hread, parseRange_typed_bounds.2.1 _ 100 200 hread, h59,
    parseRange_typed_bounds.2.2.1 _ 5 9 h59, h5, parseRange_typed_bounds.2.2.2 _ h5⟩

end TaskConsole
