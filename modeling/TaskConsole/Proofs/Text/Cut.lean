import TaskConsole.Proofs.Event.FrameRead
import TaskConsole.Download

/-! Cutting texts at a character's first occurrence, at every occurrence and at
trimmed ends, each described by how the text is put back together. -/

namespace TaskConsole

/-! ## The first occurrence -/

namespace Input

/-- In a list that holds `c`, what follows the characters before the first `c` starts with `c`. -/
theorem dropWhile_ne_eq_cons {cs : List Char} {c : Char} (h : c ∈ cs) :
    cs.dropWhile (· != c) = c :: (cs.dropWhile (· != c)).drop 1 := by
  induction cs with
  | nil => cases h
  | cons d t ih =>
    by_cases hd : d = c
    · subst hd
      simp
    · have ht : c ∈ t := (List.mem_cons.mp h).resolve_left (Ne.symm hd)
      rw [List.dropWhile_cons_of_pos (by simpa using hd)]
      exact ih ht

/-- Cutting at the first `c` gives the text before it and the text after it, and
these are the only parts that put the text back together with no `c` before it. -/
theorem splitOnce_eq_some_iff {s x y : String} {c : Char} :
    splitOnce s c = some (x, y) ↔ s.toList = x.toList ++ c :: y.toList ∧ c ∉ x.toList := by
  unfold splitOnce
  dsimp only
  constructor
  · intro h
    split at h
    · next hc =>
      have hmem : c ∈ s.toList := by simpa using hc
      obtain ⟨rfl, rfl⟩ := Prod.mk.inj (Option.some.inj h)
      refine ⟨?_, fun hx => ?_⟩
      · rw [String.toList_ofList, String.toList_ofList, ← dropWhile_ne_eq_cons hmem,
          List.takeWhile_append_dropWhile]
      · rw [String.toList_ofList] at hx
        simpa using List.mem_takeWhile_imp hx
    · cases h
  · rintro ⟨hs, hx⟩
    have hne : ∀ d ∈ x.toList, (d != c) = true := fun d hd => by
      simpa using fun h : d = c => hx (h ▸ hd)
    rw [hs, if_pos (by simp)]
    rw [List.takeWhile_append_of_pos hne, List.dropWhile_append_of_pos hne,
      List.takeWhile_cons_of_neg (by simp), List.dropWhile_cons_of_neg (by simp)]
    simp

end Input

/-! ## Every occurrence -/

namespace Download

/-- No piece holds the separator. -/
theorem not_mem_of_mem_splitOn {l p : List Char} {c : Char} (h : p ∈ l.splitOn c) : c ∉ p := by
  induction l generalizing p with
  | nil => simp_all
  | cons d t ih =>
    rw [List.splitOn_cons_eq_if_modifyHead] at h
    split at h
    · rcases List.mem_cons.mp h with rfl | h
      · simp
      · exact ih h
    · next hd =>
      obtain ⟨q, qs, hq⟩ := List.exists_cons_of_ne_nil (List.splitOn_ne_nil c t)
      rw [hq, List.modifyHead_cons] at h
      rcases List.mem_cons.mp h with rfl | h
      · have hq' : c ∉ q := ih (hq ▸ List.mem_cons_self)
        simp only [List.mem_cons, not_or]
        exact ⟨fun e => hd (by simp [e]), hq'⟩
      · exact ih (hq ▸ List.mem_cons_of_mem _ h)

theorem not_mem_of_mem_pieces {s p : String} {c : Char} (h : p ∈ pieces s c) : c ∉ p.toList := by
  obtain ⟨q, hq, rfl⟩ := List.mem_map.mp h
  rw [String.toList_ofList]
  exact not_mem_of_mem_splitOn hq

/-- A text without the separator is one piece. -/
theorem pieces_of_not_mem {s : String} {c : Char} (h : c ∉ s.toList) : pieces s c = [s] := by
  rw [pieces, List.splitOn_eq_singleton h]
  simp

/-- The text before the first separator is the first piece. -/
theorem pieces_cons {x y : List Char} {c : Char} (hx : c ∉ x) :
    pieces (String.ofList (x ++ c :: y)) c = String.ofList x :: pieces (String.ofList y) c := by
  rw [pieces, pieces, String.toList_ofList, String.toList_ofList,
    List.splitOn_append_cons_of_beq x y (by simp), List.splitOn_eq_singleton hx]
  rfl

/-! ## Both ends -/

/-- Trimming a class of characters gives back a text whose ends lie outside the
class, padded with characters of the class. -/
theorem trimBy_pad {drop : Char → Bool} {p cs q : List Char} (hp : ∀ c ∈ p, drop c = true)
    (hq : ∀ c ∈ q, drop c = true) (hne : cs ≠ []) (hhead : ∀ c ∈ cs.head?, drop c = false)
    (hlast : ∀ c ∈ cs.getLast?, drop c = false) :
    trimBy drop (String.ofList (p ++ cs ++ q)) = String.ofList cs := by
  obtain ⟨a, t, rfl⟩ := List.exists_cons_of_ne_nil hne
  have hfront : (p ++ (a :: t) ++ q).dropWhile drop = a :: t ++ q := by
    rw [List.append_assoc, List.dropWhile_append_of_pos hp, List.cons_append,
      List.dropWhile_cons_of_neg (by simp [hhead a rfl])]
  have hback : (a :: t ++ q).reverse.dropWhile drop = (a :: t).reverse := by
    rw [List.reverse_append, List.dropWhile_append_of_pos (fun c hc => hq c (List.mem_reverse.mp hc))]
    obtain ⟨b, bs, hb⟩ := List.exists_cons_of_ne_nil (List.reverse_ne_nil_iff.mpr hne)
    have hbl : drop b = false := hlast b (by rw [← List.head?_reverse, hb]; rfl)
    rw [hb, List.dropWhile_cons_of_neg (by simp [hbl])]
  rw [trimBy, String.toList_ofList, hfront, hback, List.reverse_reverse]

/-- A text whose ends lie outside the class is not trimmed. -/
theorem trimBy_of_plain_ends {drop : Char → Bool} {s : String} (hhead : ∀ c ∈ s.toList.head?, drop c = false)
    (hlast : ∀ c ∈ s.toList.getLast?, drop c = false) : trimBy drop s = s := by
  by_cases hne : s.toList = []
  · rw [trimBy, hne]
    exact (String.toList_inj.mp (by rw [hne]; rfl)).symm
  · have h := trimBy_pad (p := []) (q := []) (by simp) (by simp) hne hhead hlast
    rwa [List.nil_append, List.append_nil, String.ofList_toList] at h

end Download

namespace Text

/-- Trimming gives back a text that neither starts nor ends with a blank, from
any blank padding. -/
theorem trim_pad {p cs q : List Char} (hp : ∀ c ∈ p, isBlank c = true) (hq : ∀ c ∈ q, isBlank c = true)
    (hne : cs ≠ []) (hhead : ∀ c ∈ cs.head?, isBlank c = false)
    (hlast : ∀ c ∈ cs.getLast?, isBlank c = false) :
    trim (String.ofList (p ++ cs ++ q)) = String.ofList cs := by
  rw [trim, String.toList_ofList, trimBlanks_pad hp hq hne hhead hlast]

/-- Trimming only takes characters away. -/
theorem mem_of_mem_trim {s : String} {c : Char} (h : c ∈ (trim s).toList) : c ∈ s.toList := by
  rw [trim, String.toList_ofList, trimBlanks, List.mem_reverse] at h
  exact List.dropWhile_subset _ (List.mem_reverse.mp (List.dropWhile_subset _ h))

/-- A text that neither starts nor ends with a blank is not trimmed. -/
theorem trim_of_plain_ends {s : String} (hhead : ∀ c ∈ s.toList.head?, isBlank c = false)
    (hlast : ∀ c ∈ s.toList.getLast?, isBlank c = false) : trim s = s := by
  by_cases hne : s.toList = []
  · rw [trim, hne]
    exact (String.toList_inj.mp (by rw [hne]; rfl)).symm
  · have h := trim_pad (p := []) (q := []) (by simp) (by simp) hne hhead hlast
    rwa [List.nil_append, List.append_nil, String.ofList_toList] at h

end Text

end TaskConsole
