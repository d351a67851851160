import TaskConsole.Log.Chunk
import TaskConsole.Log.LineMap

/-! Checked computations taken apart bind by bind (`checked_bind_eq_ok`), and the
consecutive numbers `LogChunk.ofTexts` gives a read's texts (`ofTexts_numbers`). -/

namespace TaskConsole

theorem checked_bind_eq_ok {α β : Type} {x : Checked α} {f : α → Checked β} {b : β}
    (h : (x >>= f) = .ok b) : ∃ a, x = .ok a ∧ f a = .ok b := by
  cases x with
  | error e => exact absurd h (by simp [bind, Except.bind])
  | ok a => exact ⟨a, rfl, h⟩

theorem checked_pure_eq_ok {α : Type} {a b : α} (h : (pure a : Checked α) = .ok b) : a = b := by
  cases h
  rfl

/-- A choice between two computations with one continuation, as `do` writes it,
is a bind of the choice. -/
theorem checked_ite_bind {α β : Type} {c : Prop} [Decidable c] {x y : Checked α}
    {f : α → Checked β} : (if c then x >>= f else y >>= f) = (if c then x else y) >>= f := by
  split <;> rfl

namespace LogChunk

/-- Texts numbered from `start + i` get the consecutive numbers from there on,
one per text. -/
theorem numberFrom_numbers {start i : Nat} {texts : List String} {ls : List LogLine}
    (h : numberFrom start texts i = .ok ls) :
    ls.map (·.number) = List.range' (start + i) texts.length := by
  induction texts generalizing i ls with
  | nil =>
    cases checked_pure_eq_ok h
    rfl
  | cons t ts ih =>
    obtain ⟨n, hn, h⟩ := checked_bind_eq_ok h
    obtain ⟨-, rfl⟩ := Word.add_eq_ok_iff.mp hn
    obtain ⟨rest, hrest, h⟩ := checked_bind_eq_ok h
    cases checked_pure_eq_ok h
    -- the rest is numbered from one further on
    rw [List.map_cons, ih hrest, List.length_cons, List.range'_succ, Nat.add_assoc]

/-- A tail read starts where its kept texts end at the total; any other read
starts at its lower bound (at least 1) and keeps no more texts than its bounds
span. -/
theorem wireWindow_eq_ok {first last count total start keep : Nat}
    (h : wireWindow first last count total = .ok (start, keep)) :
    first = 0 ∧ last = 0 ∧ start = total - count + 1 ∧ keep = count ∨
      ¬(first = 0 ∧ last = 0) ∧ start = max first 1 ∧ keep = min count (last - first + 1) := by
  unfold wireWindow at h
  by_cases htail : first = 0 ∧ last = 0
  · rw [if_pos htail] at h
    obtain ⟨s, hs, h⟩ := checked_bind_eq_ok h
    obtain ⟨-, rfl⟩ := Word.add_eq_ok_iff.mp hs
    cases checked_pure_eq_ok h
    exact .inl ⟨htail.1, htail.2, rfl, rfl⟩
  · rw [if_neg htail] at h
    obtain ⟨s, hs, h⟩ := checked_bind_eq_ok h
    obtain ⟨-, rfl⟩ := Word.add_eq_ok_iff.mp hs
    cases checked_pure_eq_ok h
    exact .inr ⟨htail, rfl, rfl⟩

/-- The lines of a read are numbered consecutively from where its window starts. -/
theorem ofTexts_numbers {first last total : Nat} {texts : List String} {chunk : LogChunk}
    (h : ofTexts first last texts total = .ok chunk) :
    ∃ start keep, wireWindow first last texts.length total = .ok (start, keep) ∧
      chunk.lines.map (·.number) = List.range' start (min keep texts.length) ∧
      chunk.totalLines = total := by
  obtain ⟨⟨start, keep⟩, hw, h⟩ := checked_bind_eq_ok h
  obtain ⟨lines, hlines, h⟩ := checked_bind_eq_ok h
  cases checked_pure_eq_ok h
  refine ⟨start, keep, hw, ?_, rfl⟩
  rw [numberFrom_numbers hlines, List.length_take, Nat.add_zero]

/-- The lines of a read ascend from 1 or more, and a read of bounds `first ≥ 1`
to `last ≥ first` keeps no line past `last`. -/
theorem ofTexts_lines {first last total : Nat} {texts : List String} {chunk : LogChunk}
    (h : ofTexts first last texts total = .ok chunk) :
    Ascending chunk.lines ∧ (∀ l ∈ chunk.lines, 1 ≤ l.number) ∧
      (1 ≤ first → first ≤ last → ∀ l ∈ chunk.lines, l.number ≤ last) := by
  obtain ⟨start, keep, hw, hnum, -⟩ := ofTexts_numbers h
  have hbounds : ∀ l ∈ chunk.lines,
      start ≤ l.number ∧ l.number < start + min keep texts.length := by
    intro l hl
    have hmem : l.number ∈ List.range' start (min keep texts.length) :=
      hnum ▸ List.mem_map_of_mem hl
    exact List.mem_range'_1.mp hmem
  have hasc : (chunk.lines.map (·.number)).Pairwise (· < ·) := hnum ▸ List.pairwise_lt_range'
  refine ⟨List.pairwise_map.mp hasc, fun l hl => ?_, fun hfirst hle l hl => ?_⟩
  · have := (hbounds l hl).1
    rcases wireWindow_eq_ok hw with ⟨-, -, rfl, -⟩ | ⟨-, rfl, -⟩ <;> omega
  · have := hbounds l hl
    rcases wireWindow_eq_ok hw with ⟨rfl, -⟩ | ⟨-, rfl, rfl⟩ <;> omega

end LogChunk

namespace NumberedLog

theorem texts_length (a b : Nat) : (texts a b).length = b + 1 - a := by
  simp [texts]

/-- A read of bounds `first ≥ 1` to `last` gets the log's lines from `first` to
`last`, those that exist, and the log's length. -/
theorem read_range_numbers {log : NumberedLog} {first last : Nat} {chunk : LogChunk}
    (hfirst : 1 ≤ first) (h : log.read first last = .ok chunk) :
    chunk.lines.map (·.number) = List.range' first (min last log.length + 1 - first) ∧
      chunk.totalLines = log.length := by
  obtain ⟨start, keep, hw, hnum, htotal⟩ := LogChunk.ofTexts_numbers h
  have hwin : log.window first last = texts first (min last log.length) := by
    simp only [window, if_neg (show ¬(first = 0 ∧ last = 0) by omega), Nat.max_eq_left hfirst]
  rw [hwin, texts_length] at hw hnum
  rcases LogChunk.wireWindow_eq_ok hw with ⟨h0, -⟩ | ⟨-, rfl, rfl⟩
  · omega
  · -- the bounds span at least the lines the log holds between them
    have hcount : min (min (min last log.length + 1 - first) (last - first + 1))
        (min last log.length + 1 - first) = min last log.length + 1 - first := by
      omega
    rw [hnum, Nat.max_eq_left hfirst, hcount]
    exact ⟨rfl, htotal⟩

/-- A tail read gets the last `serverTailLines` lines of the log, and its length. -/
theorem read_tail_numbers {log : NumberedLog} {chunk : LogChunk} (h : log.read 0 0 = .ok chunk) :
    chunk.lines.map (·.number) =
        List.range' (max 1 (log.length + 1 - serverTailLines))
          (log.length + 1 - max 1 (log.length + 1 - serverTailLines)) ∧
      chunk.totalLines = log.length := by
  obtain ⟨start, keep, hw, hnum, htotal⟩ := LogChunk.ofTexts_numbers h
  have hwin : log.window 0 0 = texts (max 1 (log.length + 1 - serverTailLines)) log.length := by
    simp [window]
  rw [hwin, texts_length] at hw hnum
  rcases LogChunk.wireWindow_eq_ok hw with ⟨-, -, rfl, rfl⟩ | ⟨h00, -⟩
  · -- a tail read is placed so that it ends at the log's last line
    have hstart : log.length - (log.length + 1 - max 1 (log.length + 1 - serverTailLines)) + 1 =
        max 1 (log.length + 1 - serverTailLines) := by
      omega
    rw [hnum, hstart, Nat.min_self]
    exact ⟨rfl, htotal⟩
  · exact absurd ⟨rfl, rfl⟩ h00

end NumberedLog

end TaskConsole
