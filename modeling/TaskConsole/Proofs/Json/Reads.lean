import Mathlib
import TaskConsole.Json.Reader

/-! Reading bytes back: `Reads r input a d after` says the reader `r` takes exactly
`input` and returns `a`; the lemmas on `Reads` compose one reader after another. -/

namespace TaskConsole.Json

theorem toList_loop (b : ByteArray) (i : Nat) (r : List UInt8) :
    ByteArray.toList.loop b i r = r.reverse ++ b.data.toList.drop i := by
  induction i, r using ByteArray.toList.loop.induct b with
  | case1 i r h ih =>
    have hi : i < b.data.toList.length := by simpa using h
    rw [ByteArray.toList.loop, if_pos h, ih, List.drop_eq_getElem_cons hi]
    simp [ByteArray.get!, h]
  | case2 i r h =>
    have hi : b.data.toList.length ≤ i := by simpa using Nat.le_of_not_lt h
    rw [ByteArray.toList.loop, if_neg h, List.drop_eq_nil_of_le hi, List.append_nil]

theorem toList_eq_data (b : ByteArray) : b.toList = b.data.toList := by
  simp [ByteArray.toList, toList_loop]

/-- The bytes of a text are the UTF-8 encodings of its characters. -/
theorem utf8_bytes (s : String) : s.toUTF8.toList = s.toList.flatMap String.utf8EncodeChar := by
  rw [toList_eq_data, String.toUTF8_eq_toByteArray, ← String.ofList_toList (s := s),
    String.toByteArray_ofList, String.toList_ofList, List.utf8Encode, List.toList_data_toByteArray]

theorem toUTF8_append (s t : String) :
    (s ++ t).toUTF8.toList = s.toUTF8.toList ++ t.toUTF8.toList := by
  rw [utf8_bytes, utf8_bytes, utf8_bytes, String.toList_append, List.flatMap_append]

theorem mk_toArray (l : List UInt8) : ByteArray.mk l.toArray = l.toByteArray := by
  apply ByteArray.ext
  rw [← Array.toList_inj, List.toList_data_toByteArray]

/-- Bytes that encode characters decode to the text of those characters. -/
theorem fromUTF8_encoded (cs : List Char) :
    String.fromUTF8? (ByteArray.mk (cs.flatMap String.utf8EncodeChar).toArray) =
      some (String.ofList cs) := by
  have hvalid : (ByteArray.mk (cs.flatMap String.utf8EncodeChar).toArray).IsValidUTF8 :=
    .intro cs (by rw [mk_toArray]; rfl)
  rw [String.fromUTF8?, dif_pos hvalid, Option.some_inj, ← String.toByteArray_inj,
    String.toByteArray_ofList]
  show ByteArray.mk _ = _
  rw [mk_toArray]
  rfl

end TaskConsole.Json

namespace TaskConsole.Json.Reader

variable {α β : Type}

/-! ## Running a reader -/

theorem peek_apply (c : Cursor) : peek c = .ok c.rest.head? c := rfl

theorem get_apply (c : Cursor) : (get : Reader Cursor) c = .ok c c := rfl

theorem pure_apply (a : α) (c : Cursor) : (Pure.pure a : Reader α) c = .ok a c := rfl

theorem bind_of_ok {x : Reader α} {f : α → Reader β} {c c' : Cursor} {a : α}
    (h : x c = .ok a c') : (x >>= f) c = f a c' := by
  show EStateM.bind x f c = _
  simp only [EStateM.bind, h]

theorem bind_eq_ok {x : Reader α} {f : α → Reader β} {c c' : Cursor} {b : β}
    (h : (x >>= f) c = .ok b c') : ∃ a c₁, x c = .ok a c₁ ∧ f a c₁ = .ok b c' := by
  change EStateM.bind x f c = _ at h
  unfold EStateM.bind at h
  split at h
  next a c₁ hx => exact ⟨a, c₁, hx, h⟩
  next => cases h

theorem map_of_ok {x : Reader α} {f : α → β} {c c' : Cursor} {a : α} (h : x c = .ok a c') :
    (f <$> x) c = .ok (f a) c' := by
  show EStateM.map f x c = _
  simp only [EStateM.map, h]

theorem tryCatch_of_ok {x : Reader α} {handle : Error → Reader α} {c c' : Cursor} {a : α}
    (h : x c = .ok a c') : tryCatch x handle c = .ok a c' := by
  show EStateM.tryCatch x handle c = _
  simp only [EStateM.tryCatch, h]

theorem attempt_of_ok {x : Reader α} {c c' : Cursor} {a : α} (h : x c = .ok a c') :
    attempt x c = .ok (.ok a) c' :=
  tryCatch_of_ok (map_of_ok h)

/-- A reader placed at its failure succeeds only as the reader itself does. -/
theorem placed_ok {x : Reader α} {c c' : Cursor} {a : α} (h : placed x c = .ok a c') :
    x c = .ok a c' := by
  change EStateM.tryCatch x _ c = _ at h
  unfold EStateM.tryCatch at h
  dsimp only at h
  split at h
  next e c₁ hx =>
    -- the handler places the failure and throws it again
    obtain ⟨p, c₂, -, h⟩ := bind_eq_ok h
    cases h
  next => exact h

theorem failAhead_ne_ok {message : String} {c c' : Cursor} {a : α} :
    (failAhead message : Reader α) c ≠ .ok a c' := by
  intro h
  unfold failAhead at h
  obtain ⟨p, c₁, -, h⟩ := bind_eq_ok h
  cases h

theorem eat_step {c : Cursor} {b : UInt8} {rest : List UInt8} (h : c.rest = b :: rest) :
    ∃ c', eat c = .ok () c' ∧ c'.rest = rest ∧ c'.depth = c.depth :=
  ⟨_, rfl, by simp [h], by simp [h]⟩

theorem next_step {c : Cursor} {b : UInt8} {rest : List UInt8} (h : c.rest = b :: rest) :
    ∃ c', next c = .ok (some b) c' ∧ c'.rest = rest ∧ c'.depth = c.depth := by
  obtain ⟨_, index, line, lineStart, depth⟩ := c
  subst h
  exact ⟨_, rfl, rfl, rfl⟩

/-! ## Reading given bytes -/

/-- `r` reads the bytes `input` as `a`, with more than `d` levels of nesting left, before
any bytes that satisfy `after`. -/
def Reads (r : Reader α) (input : List UInt8) (a : α) (d : Nat) (after : List UInt8 → Prop) :
    Prop :=
  ∀ (c : Cursor) (rest : List UInt8), c.rest = input ++ rest → after rest → d < c.depth →
    ∃ c', r c = .ok a c' ∧ c'.rest = rest ∧ c'.depth = c.depth

theorem Reads.bind {r : Reader α} {f : α → Reader β} {i₁ i₂ : List UInt8} {a : α} {b : β}
    {d : Nat} {A₁ A₂ : List UInt8 → Prop} (h₁ : Reads r i₁ a d A₁) (h₂ : Reads (f a) i₂ b d A₂)
    (hA : ∀ rest, A₂ rest → A₁ (i₂ ++ rest)) : Reads (r >>= f) (i₁ ++ i₂) b d A₂ := by
  intro c rest hc hrest hd
  obtain ⟨c₁, hr, hc₁, hd₁⟩ := h₁ c (i₂ ++ rest) (by rw [hc, List.append_assoc]) (hA rest hrest) hd
  obtain ⟨c₂, hf, hc₂, hd₂⟩ := h₂ c₁ rest hc₁ hrest (hd₁ ▸ hd)
  exact ⟨c₂, by rw [bind_of_ok hr, hf], hc₂, hd₂.trans hd₁⟩

theorem Reads.pure (a : α) (d : Nat) (A : List UInt8 → Prop) : Reads (Pure.pure a) [] a d A :=
  fun c _ hc _ _ => ⟨c, rfl, hc, rfl⟩

theorem Reads.bind_pure {r : Reader α} {f : α → β} {i : List UInt8} {a : α} {d : Nat}
    {A : List UInt8 → Prop} (h : Reads r i a d A) :
    Reads (r >>= fun x => Pure.pure (f x)) i (f a) d A := by
  intro c rest hc hA hd
  obtain ⟨c', hr, hc', hd'⟩ := h c rest hc hA hd
  exact ⟨c', by rw [bind_of_ok hr]; rfl, hc', hd'⟩

theorem Reads.placed {x : Reader α} {i : List UInt8} {a : α} {d : Nat} {A : List UInt8 → Prop}
    (h : Reads x i a d A) : Reads (Reader.placed x) i a d A := by
  intro c rest hc hA hd
  obtain ⟨c', hx, hc', hd'⟩ := h c rest hc hA hd
  exact ⟨c', tryCatch_of_ok hx, hc', hd'⟩

/-- An array or object read between its opening byte and its closing bytes `j`: the body
runs one level deeper. -/
theorem Reads.nested {body : Reader α} {close : Reader Unit} {o : UInt8} {i j : List UInt8}
    {a : α} {d : Nat} {A B : List UInt8 → Prop} (hb : Reads body i a d B)
    (hc : Reads close j () (d + 1) A) (hA : ∀ rest, A rest → B (j ++ rest)) :
    Reads (Reader.nested body close) (o :: i ++ j) a (d + 1) A := by
  intro c rest hcr hArest hd
  -- entering leaves one level fewer; the opening byte is eaten
  have henter : enter c = .ok () { c with depth := c.depth - 1 } := by
    unfold enter
    rw [bind_of_ok (get_apply c), if_neg (by omega)]
    rfl
  obtain ⟨c₁, heat, hc₁, hd₁⟩ := eat_step (show ({ c with depth := c.depth - 1 } : Cursor).rest =
    o :: (i ++ j ++ rest) by simp [hcr])
  obtain ⟨c₂, hbody, hc₂, hd₂⟩ := hb c₁ (j ++ rest) (by rw [hc₁, List.append_assoc])
    (hA rest hArest) (by simp at hd₁; omega)
  -- leaving gives the level back before the closing bytes
  obtain ⟨c₃, hclose, hc₃, hd₃⟩ := hc { c₂ with depth := c₂.depth + 1 } rest hc₂ hArest
    (by simp at hd₁ ⊢; omega)
  refine ⟨c₃, ?_, hc₃, ?_⟩
  · unfold Reader.nested
    rw [bind_of_ok henter, bind_of_ok heat, bind_of_ok (attempt_of_ok hbody),
      bind_of_ok (show leave c₂ = .ok () { c₂ with depth := c₂.depth + 1 } from rfl),
      bind_of_ok (attempt_of_ok hclose)]
    rfl
  · simp at hd₁ hd₃ ⊢
    omega

theorem eat_reads (b : UInt8) (d : Nat) (A : List UInt8 → Prop) : Reads eat [b] () d A :=
  fun _ _ hc _ _ => eat_step hc

theorem ident_reads (bs : List UInt8) (d : Nat) (A : List UInt8 → Prop) :
    Reads (ident bs) bs () d A := by
  induction bs with
  | nil => exact Reads.pure () d A
  | cons b bs ih =>
    intro c rest hc hA hd
    obtain ⟨c₁, hn, hc₁, hd₁⟩ := next_step (show c.rest = b :: (bs ++ rest) by simp [hc])
    obtain ⟨c₂, hi, hc₂, hd₂⟩ := ih c₁ rest hc₁ hA (hd₁ ▸ hd)
    refine ⟨c₂, ?_, hc₂, hd₂.trans hd₁⟩
    rw [ident, bind_of_ok hn]
    simpa using hi

/-! ## Blanks -/

/-- Whether a byte is one of the blanks the reader skips. -/
def IsBlank (b : UInt8) : Prop := b = 32 ∨ b = 9 ∨ b = 10 ∨ b = 13

theorem whitespace_stop (fuel : Nat) {c : Cursor} (h : ∀ b ∈ c.rest.head?, ¬ IsBlank b) :
    whitespace fuel c = .ok c.rest.head? c := by
  cases fuel with
  | zero => rfl
  | succ fuel =>
    unfold whitespace
    rw [bind_of_ok (peek_apply c)]
    cases hc : c.rest with
    | nil => rfl
    | cons b r =>
      -- the byte ahead is no blank, so the match falls to its last case
      obtain ⟨h1, h2, h3, h4⟩ : ¬b = 32 ∧ ¬b = 9 ∧ ¬b = 10 ∧ ¬b = 13 := by
        simpa [IsBlank, not_or] using h b (by simp [hc])
      simp [h1, h2, h3, h4, pure_apply]

theorem blank_stop {c : Cursor} (h : ∀ b ∈ c.rest.head?, ¬ IsBlank b) :
    blank c = .ok c.rest.head? c := by
  unfold blank
  rw [bind_of_ok (get_apply c)]
  exact whitespace_stop _ h

theorem blank_at {c : Cursor} {b : UInt8} {r : List UInt8} (h : c.rest = b :: r)
    (hb : ¬ IsBlank b) : blank c = .ok (some b) c := by
  rw [blank_stop (by simpa [h] using hb), h]
  rfl

/-- Skipping blanks steps over blank bytes only, and stops at the byte it returns. -/
theorem whitespace_ok : ∀ (fuel : Nat) {c c' : Cursor} {x : Option UInt8},
    whitespace fuel c = .ok x c' →
      ∃ pre, c.rest = pre ++ c'.rest ∧ (∀ b ∈ pre, IsBlank b) ∧ x = c'.rest.head?
  | 0, c, c', x, h => by
    cases h
    exact ⟨[], rfl, by simp, rfl⟩
  | fuel + 1, c, c', x, h => by
    unfold whitespace at h
    rw [bind_of_ok (peek_apply c)] at h
    cases hc : c.rest with
    | nil =>
      rw [hc] at h
      cases h
      exact ⟨[], by simp [hc], by simp, by simp [hc]⟩
    | cons b r =>
      rw [hc] at h
      by_cases hb : IsBlank b
      · -- a blank is eaten, and the rest skipped
        obtain ⟨c₁, heat, hr₁, -⟩ := eat_step hc
        have hstep : whitespace fuel c₁ = .ok x c' := by
          rcases hb with rfl | rfl | rfl | rfl
          all_goals simpa [bind_of_ok heat] using h
        obtain ⟨pre, hpre, hblank, hx⟩ := whitespace_ok fuel hstep
        refine ⟨b :: pre, by rw [← hr₁, hpre]; rfl, ?_, hx⟩
        intro y hy
        rcases List.mem_cons.mp hy with rfl | hy
        · exact hb
        · exact hblank y hy
      · -- any other byte stops the skip where it stands
        simp only [IsBlank, not_or] at hb
        obtain ⟨h1, h2, h3, h4⟩ := hb
        simp [h1, h2, h3, h4, pure_apply] at h
        obtain ⟨rfl, rfl⟩ := h
        exact ⟨[], by simp [hc], by simp, by simp [hc]⟩

theorem blank_ok {c c' : Cursor} {x : Option UInt8} (h : blank c = .ok x c') :
    ∃ pre, c.rest = pre ++ c'.rest ∧ (∀ b ∈ pre, IsBlank b) ∧ x = c'.rest.head? := by
  unfold blank at h
  rw [bind_of_ok (get_apply c)] at h
  exact whitespace_ok _ h

/-! ## Whole texts -/

/-- A reader that reads a whole text, with room for its nesting, decodes it. -/
theorem decode_of_reads {r : Reader α} {text : String} {a : α} {d : Nat} (hd : d < 128)
    (h : Reads r text.toUTF8.toList a d (fun rest => rest = [])) : decode r text = .ok a := by
  obtain ⟨c', hrun, hr', -⟩ := h { rest := text.toUTF8.toList } [] (List.append_nil _).symm rfl hd
  -- nothing is left to trail the value
  have hblank : blank c' = .ok none c' := by
    rw [blank_stop (by simp [hr']), hr']
    rfl
  unfold decode
  simp only [EStateM.run]
  rw [bind_of_ok hrun, bind_of_ok hblank]
  rfl

end TaskConsole.Json.Reader
