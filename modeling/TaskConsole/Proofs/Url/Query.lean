import TaskConsole.Url.Parse

/-! A relative reference without `?` or `#` is read as a path to its end, so the URL
it resolves to has no query (`join_query_none`). -/

namespace TaskConsole.Url

/-- Text with no `?` or `#`, which would start a query or a fragment. -/
def NoQueryMarks (cs : List Char) : Prop := ∀ c ∈ cs, c ≠ '?' ∧ c ≠ '#'

theorem NoQueryMarks.of_suffix {cs ds : List Char} (h : NoQueryMarks cs) (hs : ds <:+ cs) :
    NoQueryMarks ds := fun c hc => h c (hs.subset hc)

/-- A segment is read up to a slash, which it steps over, or to the end of an
input with no query or fragment; what is left is a suffix of the input. -/
theorem readSegment_rest (kind : SchemeKind) :
    ∀ (input path : List Char) (start : Nat), NoQueryMarks input →
      (readSegment kind input path start).2.2.2 <:+ input ∧
        ((readSegment kind input path start).2.2.2 = [] ∨
          (readSegment kind input path start).2.2.1 = true ∧
            (readSegment kind input path start).2.2.2.length < input.length) := by
  intro input
  induction input with
  | nil => intro path start _; exact ⟨List.suffix_refl _, .inl rfl⟩
  | cons c rest ih =>
    intro path start hmarks
    have hc := hmarks c List.mem_cons_self
    have hrest : NoQueryMarks rest := fun d hd => hmarks d (List.mem_cons_of_mem _ hd)
    unfold readSegment
    split
    · exact ⟨List.suffix_cons _ _, .inr ⟨rfl, by simp⟩⟩
    · split
      · next hq => simp [hc.1, hc.2] at hq
      · obtain ⟨hsuf, hend⟩ := ih _ _ hrest
        refine ⟨hsuf.trans (List.suffix_cons _ _), ?_⟩
        rcases hend with h | ⟨hs, hlt⟩
        · exact .inl h
        · exact .inr ⟨hs, Nat.lt_succ_of_lt hlt⟩

/-- One round of reading a path reads a segment and goes on with the rest after
a slash. -/
theorem pathSegments_succ (kind : SchemeKind) (fuel : Nat) (path : List Char) (hasHost : Bool)
    (input : List Char) : ∃ path' hasHost',
      pathSegments kind (fuel + 1) path hasHost input =
        if (readSegment kind input path path.length).2.2.1 then
          pathSegments kind fuel path' hasHost' (readSegment kind input path path.length).2.2.2
        else (path', hasHost', (readSegment kind input path path.length).2.2.2) := by
  rw [pathSegments]
  generalize readSegment kind input path path.length = r
  obtain ⟨full, start, slash, rest⟩ := r
  exact ⟨_, _, rfl⟩

/-- With fuel at least the input's length, a path is read to the end of an input
that has no query or fragment. -/
theorem pathSegments_rest (kind : SchemeKind) :
    ∀ (fuel : Nat) (path : List Char) (hasHost : Bool) (input : List Char),
      input.length ≤ fuel → NoQueryMarks input → (pathSegments kind fuel path hasHost input).2.2 = [] := by
  intro fuel
  induction fuel with
  | zero =>
    intro path hasHost input hlen _
    rw [List.eq_nil_of_length_eq_zero (Nat.le_zero.mp hlen)]
    rfl
  | succ fuel ih =>
    intro path hasHost input hlen hmarks
    obtain ⟨hsuf, hend⟩ := readSegment_rest kind input path path.length hmarks
    obtain ⟨path', hasHost', heq⟩ := pathSegments_succ kind fuel path hasHost input
    rw [heq]
    rcases hend with hnil | ⟨hslash, hlt⟩
    · split
      · exact ih _ _ _ (by rw [hnil]; exact Nat.zero_le _) (fun c hc => by rw [hnil] at hc; cases hc)
      · exact hnil
    · rw [if_pos hslash]
      exact ih _ _ _ (by omega) (hmarks.of_suffix hsuf)

/-- A path is read to the end of an input with no query or fragment. -/
theorem parsePath_rest (kind : SchemeKind) (path : List Char) (hasHost : Bool) {input : List Char}
    (h : NoQueryMarks input) : (parsePath kind path hasHost input).2.2 = [] :=
  pathSegments_rest kind _ path hasHost input (Nat.le_succ _) h

/-- A scheme runs up to a colon. -/
theorem schemeRest_colon : ∀ (acc cs : List Char) {r : String × List Char},
    schemeRest acc cs = some r → ':' ∈ cs := by
  intro acc cs
  induction cs generalizing acc with
  | nil => intro r h; cases h
  | cons c rest ih =>
    intro r h
    by_cases hc : c = ':'
    · rw [hc]
      exact List.mem_cons_self
    · rw [schemeRest.eq_3 _ _ _ hc] at h
      split at h
      · exact List.mem_cons_of_mem _ (ih _ h)
      · cases h

theorem schemePrefix_none {cs : List Char} (h : ':' ∉ cs) : schemePrefix cs = none := by
  match cs, h with
  | [], _ => rfl
  | c :: rest, h =>
    rw [schemePrefix]
    split
    · cases hr : schemeRest [c.toLower] rest with
      | none => rfl
      | some r => exact absurd (List.mem_cons_of_mem _ (schemeRest_colon _ _ hr)) h
    · rfl

/-- Dropping leading characters that `p` refuses drops nothing. -/
theorem dropWhile_of_forall {p : Char → Bool} :
    ∀ {cs : List Char}, (∀ c ∈ cs, p c = false) → cs.dropWhile p = cs
  | [], _ => rfl
  | c :: _, h => List.dropWhile_cons_of_neg (by simp [h c List.mem_cons_self])

/-- A text without controls or spaces is read as it is. -/
theorem prepare_eq {s : String} (h : ∀ c ∈ s.toList, 0x20 < c.toNat) : prepare s = s.toList := by
  have hblank : ∀ c ∈ s.toList, decide (c.toNat ≤ 0x20) = false := fun c hc => by
    simpa using h c hc
  unfold prepare
  dsimp only
  rw [dropWhile_of_forall hblank, dropWhile_of_forall (by simpa using hblank), List.reverse_reverse]
  refine List.filter_eq_self.mpr fun c hc => ?_
  have := h c hc
  have htab : c ≠ '\t' := fun e => by subst e; simp at this
  have hlf : c ≠ '\n' := fun e => by subst e; simp at this
  have hcr : c ≠ '\r' := fun e => by subst e; simp at this
  simp [htab, hlf, hcr]

/-- A path read to the end leaves nothing for a query or a fragment. -/
theorem parsePath_eq (kind : SchemeKind) (path : List Char) (hasHost : Bool) {input : List Char}
    (h : NoQueryMarks input) : ∃ path' hasHost', parsePath kind path hasHost input = (path', hasHost', []) :=
  ⟨_, _, Prod.ext rfl (Prod.ext rfl (parsePath_rest kind path hasHost h))⟩

theorem parseRelative_query {base u : Url} {c : Char} {cs : List Char}
    (hslash : c ≠ '/') (hback : c ≠ '\\') (hmarks : NoQueryMarks (c :: cs))
    (h : parseRelative (c :: cs) base = .ok u) : u.query = none := by
  have hc := hmarks c List.mem_cons_self
  unfold parseRelative at h
  dsimp only at h
  split at h
  · next heq => cases heq
  · next heq => exact absurd (List.cons.inj heq).1 hc.1
  · next heq => exact absurd (List.cons.inj heq).1 hc.2
  · next d rest heq =>
    obtain ⟨rfl, rfl⟩ := List.cons.inj heq
    rw [if_neg (by simp [hslash, hback])] at h
    obtain ⟨path, hasHost, hp⟩ := parsePath_eq base.kind
      (if (popPath base.kind base.path.toList).isEmpty = true then ['/'] else popPath base.kind base.path.toList)
      true hmarks
    rw [hp] at h
    cases h
    rfl

theorem parseFile_query {base u : Url} {c : Char} {cs : List Char}
    (hslash : c ≠ '/') (hback : c ≠ '\\') (hmarks : NoQueryMarks (c :: cs))
    (h : parseFile (c :: cs) (some base) = .ok u) : u.query = none := by
  have hc := hmarks c List.mem_cons_self
  unfold parseFile at h
  dsimp only at h
  rw [if_neg (by simp [hslash, hback])] at h
  unfold parseFile.fileRelative at h
  dsimp only at h
  split at h
  · next heq => cases heq
  · next heq => exact absurd (List.cons.inj heq).1 hc.1
  · next heq => exact absurd (List.cons.inj heq).1 hc.2
  · split at h
    · obtain ⟨path, hasHost, hp⟩ := parsePath_eq .file ['/'] false hmarks
      rw [hp] at h
      cases h
      rfl
    · obtain ⟨path, hasHost, hp⟩ :=
        parsePath_eq .file (shortenPath .file base.path.toList) true hmarks
      rw [hp] at h
      cases h
      rfl

/-- A relative reference made of path characters only, with no colon, `?`, `#`,
control or space and no leading slash, resolves to a URL without a query. -/
theorem join_query_none {base u : Url} {s : String}
    (hchars : ∀ c ∈ s.toList, 0x20 < c.toNat ∧ c ≠ ':' ∧ c ≠ '?' ∧ c ≠ '#')
    (hhead : ∃ c cs, s.toList = c :: cs ∧ c ≠ '/' ∧ c ≠ '\\')
    (h : base.join s = .ok u) : u.query = none := by
  obtain ⟨c, cs, hs, hslash, hback⟩ := hhead
  have hmarks : NoQueryMarks (c :: cs) := fun d hd =>
    ⟨(hchars d (hs ▸ hd)).2.2.1, (hchars d (hs ▸ hd)).2.2.2⟩
  unfold Url.join parseWith at h
  rw [prepare_eq (fun d hd => (hchars d hd).1)] at h
  dsimp only at h
  rw [schemePrefix_none (fun hd => (hchars ':' hd).2.1 rfl), hs] at h
  dsimp only at h
  have hc := hmarks c List.mem_cons_self
  split at h
  · next heq => exact absurd (List.cons.inj heq).1 hc.2
  · split at h
    · cases h
    · split at h
      · exact parseFile_query hslash hback hmarks h
      · exact parseRelative_query hslash hback hmarks h

end TaskConsole.Url
