import TaskConsole.Proofs.Json.Values

/-! Structures read back: an object of known members, each once, updates the shape in
member order (`structure_written`); a scalar is refused (`decode_structure_opens`). -/

namespace TaskConsole.Json.Reader

variable {α β γ : Type}

/-! ## Optional fields -/

/-- An optional reader reads `null` as none. -/
theorem option_null (r : Reader α) (d : Nat) (A : List UInt8 → Prop) :
    Reads (option r) Value.null.write.toUTF8.toList none d A := by
  intro c rest hc hA hd
  rw [null_bytes] at hc
  have hread : Reads (eat >>= fun _ => ident [117, 108, 108] >>= fun _ => Pure.pure none)
      ([110] ++ ([117, 108, 108] ++ [])) (none : Option α) d A :=
    (eat_reads 110 d (fun _ => True)).bind ((ident_reads _ d (fun _ => True)).bind
      (Reads.pure none d A) (fun _ _ => trivial)) (fun _ _ => trivial)
  obtain ⟨c', hrun, hr', hd'⟩ := hread c rest (by rw [hc]; rfl) hA hd
  refine ⟨c', ?_, hr', hd'⟩
  unfold option
  rw [bind_of_ok (blank_at (show c.rest = 110 :: ([117, 108, 108] ++ rest) by rw [hc]; rfl)
    (by simp [IsBlank]))]
  simpa using hrun

/-- An optional reader reads any other written value through its reader. -/
theorem option_some {r : Reader α} {v : Value} {a : α} {d : Nat} {A : List UInt8 → Prop}
    (hv : v.plain = true) (hnull : v ≠ .null) (hr : Reads r v.write.toUTF8.toList a d A) :
    Reads (option r) v.write.toUTF8.toList (some a) d A := by
  intro c rest hc hA hd
  obtain ⟨b, bs, hbytes, hblank, -, -, -, hn⟩ := write_head v hv
  -- only `null` starts with `n`
  have h110 : b ≠ 110 := fun hb => hnull (hn hb)
  obtain ⟨c', hrun, hr', hd'⟩ := hr c rest hc hA hd
  refine ⟨c', ?_, hr', hd'⟩
  unfold option
  rw [bind_of_ok (blank_at (show c.rest = b :: (bs ++ rest) by rw [hc, hbytes]; rfl) hblank)]
  simp [h110, map_of_ok hrun]

/-! ## Members by key -/

section Shape

variable (shape : Shape β γ) (set : β → String × Value → β) (d : Nat)

/-- Each member names a field of `shape`, whose reader reads the member's written value
as `set` says. -/
def FieldsRead (ms : List (String × Value)) : Prop :=
  ∀ m ∈ ms, ∃ dec, shape.field m.1 = some dec ∧
    Reads dec m.2.write.toUTF8.toList (fun b => set b m) d Ends

/-- The members of a structure after the first, each after its comma. -/
theorem byKey_more : ∀ (ms : List (String × Value)) (fuel : Nat) (seen : List String) (b : β),
    FieldsRead shape set d ms → (ms.map Prod.fst).Nodup → (∀ m ∈ ms, m.1 ∉ seen) → ms.length < fuel →
    Reads (structure_.byKey shape fuel false seen b) (moreMembers ms).toUTF8.toList (ms.foldl set b) d
      (fun rest => rest.head? = some 125)
  | [], fuel + 1, seen, b, _, _, _, _ => by
    intro c rest hc hA _
    have hbytes : (moreMembers []).toUTF8.toList = [] := by rw [moreMembers, utf8_bytes]; rfl
    rw [hbytes, List.nil_append] at hc
    have hclose : c.rest = 125 :: rest.tail := by
      rw [hc]
      cases rest with
      | nil => cases hA
      | cons b r => cases hA; rfl
    refine ⟨c, ?_, hc, rfl⟩
    rw [structure_.byKey, bind_of_ok (nextKey_close false hclose)]
    rfl
  | (k, v) :: ms, fuel + 1, seen, b, hread, hnodup, hseen, hlen => by
    obtain ⟨dec, hfield, hdec⟩ := hread (k, v) List.mem_cons_self
    have hnot : seen.contains k = false := by simpa using hseen (k, v) List.mem_cons_self
    rw [moreMembers_cons_bytes]
    intro c rest hc hA hd
    obtain ⟨c₁, hk₁, hr₁, hd₁⟩ := nextKey_comma k d (fun _ => True) c
      (58 :: (v.write.toUTF8.toList ++ (moreMembers ms).toUTF8.toList) ++ rest) (by simp [hc]) trivial hd
    obtain ⟨c₂, hc₂, hr₂, hd₂⟩ := colon_step (by simp [hr₁] : c₁.rest = 58 ::
      (v.write.toUTF8.toList ++ ((moreMembers ms).toUTF8.toList ++ rest)))
    obtain ⟨c₃, hv₃, hr₃, hd₃⟩ := hdec c₂ ((moreMembers ms).toUTF8.toList ++ rest) hr₂
      (moreMembers_ends ms hA) (by omega)
    -- the other members: their keys are neither `k` nor seen before
    have hnodup' : (ms.map Prod.fst).Nodup := (List.nodup_cons.mp hnodup).2
    have hseen' : ∀ m ∈ ms, m.1 ∉ k :: seen := by
      intro m hm hmem
      rcases List.mem_cons.mp hmem with h | h
      · exact (List.nodup_cons.mp hnodup).1 (List.mem_map.mpr ⟨m, hm, h⟩)
      · exact hseen m (List.mem_cons_of_mem _ hm) h
    obtain ⟨c₄, he₄, hr₄, hd₄⟩ := byKey_more ms fuel (k :: seen) (set b (k, v))
      (fun m hm => hread m (List.mem_cons_of_mem _ hm)) hnodup' hseen' (by simp at hlen; omega)
      c₃ rest hr₃ hA (by omega)
    refine ⟨c₄, ?_, hr₄, by omega⟩
    rw [structure_.byKey, bind_of_ok hk₁]
    dsimp only
    rw [hfield]
    dsimp only
    rw [hnot, if_neg Bool.false_ne_true, bind_of_ok hc₂, bind_of_ok hv₃]
    exact he₄
  | _, 0, _, _, _, _, _, hlen => absurd hlen (Nat.not_lt_zero _)

/-- The members of a structure, up to its closing brace. -/
theorem byKey_first {ms : List (String × Value)} {fuel : Nat} (b : β) (hread : FieldsRead shape set d ms)
    (hnodup : (ms.map Prod.fst).Nodup) (hlen : ms.length < fuel) :
    Reads (structure_.byKey shape fuel true [] b) (writeMembers ms).toUTF8.toList (ms.foldl set b) d
      (fun rest => rest.head? = some 125) := by
  match ms, fuel, hread, hnodup, hlen with
  | [], fuel + 1, _, _, _ =>
    intro c rest hc hA _
    have hbytes : (writeMembers []).toUTF8.toList = [] := by rw [writeMembers, utf8_bytes]; rfl
    rw [hbytes, List.nil_append] at hc
    have hclose : c.rest = 125 :: rest.tail := by
      rw [hc]
      cases rest with
      | nil => cases hA
      | cons b r => cases hA; rfl
    refine ⟨c, ?_, hc, rfl⟩
    rw [structure_.byKey, bind_of_ok (nextKey_close true hclose)]
    rfl
  | (k, v) :: ms, fuel + 1, hread, hnodup, hlen =>
    obtain ⟨dec, hfield, hdec⟩ := hread (k, v) List.mem_cons_self
    rw [writeMembers_cons_bytes]
    intro c rest hc hA hd
    obtain ⟨c₁, hk₁, hr₁, hd₁⟩ := nextKey_first k d (fun _ => True) c
      (58 :: (v.write.toUTF8.toList ++ (moreMembers ms).toUTF8.toList) ++ rest) (by simp [hc]) trivial hd
    obtain ⟨c₂, hc₂, hr₂, hd₂⟩ := colon_step (by simp [hr₁] : c₁.rest = 58 ::
      (v.write.toUTF8.toList ++ ((moreMembers ms).toUTF8.toList ++ rest)))
    obtain ⟨c₃, hv₃, hr₃, hd₃⟩ := hdec c₂ ((moreMembers ms).toUTF8.toList ++ rest) hr₂
      (moreMembers_ends ms hA) (by omega)
    have hseen : ∀ m ∈ ms, m.1 ∉ [k] := by
      intro m hm hmem
      exact (List.nodup_cons.mp hnodup).1 (List.mem_map.mpr ⟨m, hm, List.mem_singleton.mp hmem⟩)
    obtain ⟨c₄, he₄, hr₄, hd₄⟩ := byKey_more shape set d ms fuel [k] (set b (k, v))
      (fun m hm => hread m (List.mem_cons_of_mem _ hm)) (List.nodup_cons.mp hnodup).2 hseen
      (by simp at hlen; omega) c₃ rest hr₃ hA (by omega)
    refine ⟨c₄, ?_, hr₄, by omega⟩
    rw [structure_.byKey, bind_of_ok hk₁]
    dsimp only
    rw [hfield]
    dsimp only
    rw [show [].contains k = false from rfl, if_neg Bool.false_ne_true, bind_of_ok hc₂, bind_of_ok hv₃]
    exact he₄

end Shape

/-- A structure is read from a written object whose members name its fields, each once:
the fields' updates apply in the members' order. -/
theorem structure_written (shape : Shape β β) (set : β → String × Value → β) (d : Nat)
    (hfinish : ∀ b, shape.finish b = .ok b) {ms : List (String × Value)} (hread : FieldsRead shape set d ms)
    (hnodup : (ms.map Prod.fst).Nodup) (A : List UInt8 → Prop) :
    Reads (structure_ shape) (Value.object ms).write.toUTF8.toList (ms.foldl set shape.start) (d + 1) A := by
  intro c rest hc hA hd
  rw [write_object_bytes] at hc
  unfold structure_
  rw [bind_of_ok (blank_at (show c.rest = 123 :: ((writeMembers ms).toUTF8.toList ++ [125] ++ rest) by
    rw [hc]; rfl) (by simp [IsBlank]))]
  refine Reads.placed (Reads.nested (B := fun rest => rest.head? = some 125) ?_ (endObject_reads (d + 1) A)
    (fun _ _ => rfl)) c rest (by rw [hc]; rfl) hA hd
  -- inside the braces: the members by key, with fuel for every byte ahead
  intro c₁ rest₁ hc₁ hA₁ hd₁
  have hlen : ms.length < c₁.rest.length + 1 := by
    have := length_le_writeMembers ms
    rw [hc₁, List.length_append]
    omega
  obtain ⟨c₂, hb₂, hr₂, hd₂⟩ := byKey_first shape set d shape.start hread hnodup hlen c₁ rest₁ hc₁ hA₁ hd₁
  refine ⟨c₂, ?_, hr₂, hd₂⟩
  rw [bind_of_ok (get_apply c₁), bind_of_ok hb₂]
  -- the shape's finish keeps what the members built
  dsimp only
  rw [hfinish]
  rfl

/-! ## What a structure is read from -/

/-- Refusing a value never succeeds. -/
theorem refuse_ne_ok {expected : String} {c c' : Cursor} {a : α} : (refuse expected : Reader α) c ≠ .ok a c' := by
  intro h
  unfold refuse at h
  obtain ⟨x, c₁, -, h⟩ := bind_eq_ok h
  cases x with
  | none => exact failAhead_ne_ok h
  | some b =>
    by_cases h91 : b = 91
    · subst h91
      cases h
    by_cases h123 : b = 123
    · subst h123
      cases h
    by_cases hs : startsScalar b = true
    · simp only [hs, if_true] at h
      -- the scalar is read, then refused
      obtain ⟨v, c₂, -, h⟩ := bind_eq_ok h
      cases h
    · simp only [hs] at h
      exact failAhead_ne_ok h

/-- A structure is read only from an object or an array: the first byte after blanks
opens one or the other. -/
theorem structure_opens {shape : Shape β γ} {c c' : Cursor} {g : γ}
    (h : structure_ shape c = .ok g c') : ∃ c₁, blank c = .ok (some 123) c₁ ∨ blank c = .ok (some 91) c₁ := by
  unfold structure_ at h
  obtain ⟨x, c₁, hx, h⟩ := bind_eq_ok h
  refine ⟨c₁, ?_⟩
  cases x with
  | none => exact absurd h failAhead_ne_ok
  | some b =>
    by_cases h123 : b = 123
    · subst h123
      exact .inl hx
    by_cases h91 : b = 91
    · subst h91
      exact .inr hx
    simp only at h
    exact absurd (placed_ok h) refuse_ne_ok

/-- A text decoded as a structure starts, after blanks, with `{` or `[`. -/
theorem decode_structure_opens {shape : Shape β γ} {text : String} {g : γ}
    (h : decode (structure_ shape) text = .ok g) :
    ∃ pre b rest, text.toUTF8.toList = pre ++ b :: rest ∧ (∀ x ∈ pre, IsBlank x) ∧ (b = 123 ∨ b = 91) := by
  unfold decode at h
  dsimp only at h
  split at h
  next a c' hrun =>
    obtain ⟨g', c₁, hs, -⟩ := bind_eq_ok hrun
    -- the blanks skipped before the opening byte
    obtain ⟨c₂, hb⟩ := structure_opens hs
    obtain ⟨b, hb, hopen⟩ : ∃ b, blank { rest := text.toUTF8.toList } = .ok (some b) c₂ ∧ (b = 123 ∨ b = 91) := by
      rcases hb with hb | hb
      · exact ⟨123, hb, .inl rfl⟩
      · exact ⟨91, hb, .inr rfl⟩
    obtain ⟨pre, hpre, hblank, hx⟩ := blank_ok hb
    cases hrest : c₂.rest with
    | nil =>
      rw [hrest] at hx
      cases hx
    | cons b' rest =>
      rw [hrest] at hx
      cases hx
      exact ⟨pre, b, rest, by rw [← hrest]; exact hpre, hblank, hopen⟩
  next => cases h

end TaskConsole.Json.Reader
