import TaskConsole.Proofs.Chunk

/-! How a read numbers the texts the logs endpoint returns (`wireNumbers`,
`ofTexts_numbering`), except a tail read of nothing that reports the largest word. -/

namespace TaskConsole

namespace LogChunk

/-- The numbers a read of bounds `first, last` gives to `count` texts reported
with the log's length `total`. -/
def wireNumbers (first last count total : Nat) : List Nat :=
  if first = 0 ∧ last = 0 then
    if count ≤ total then List.range' (total + 1 - count) count else List.range' 1 count
  else List.range' first (min count (last - first + 1))

/-- Texts numbered from `start + i` on, with every number inside a word, get the
consecutive numbers from there and keep their order. -/
theorem numberFrom_ok (start : Nat) (texts : List String) {i : Nat}
    (h : start + i + texts.length ≤ wordBound) :
    ∃ ls, numberFrom start texts i = .ok ls ∧
      ls.map (·.number) = List.range' (start + i) texts.length ∧ ls.map (·.text) = texts := by
  induction texts generalizing i with
  | nil => exact ⟨[], rfl, rfl, rfl⟩
  | cons t ts ih =>
    have hfirst : start + i < wordBound := by
      simp only [List.length_cons] at h
      omega
    obtain ⟨rest, hrest, hnum, htext⟩ := ih (i := i + 1) (by simp only [List.length_cons] at h; omega)
    refine ⟨⟨start + i, t⟩ :: rest, ?_, ?_, by simp [htext]⟩
    · simp only [numberFrom, Word.add_eq_ok hfirst, hrest]
      rfl
    · rw [List.map_cons, hnum, List.length_cons, List.range'_succ, Nat.add_assoc]

/-- For bounds `0, 0` or `1 ≤ first ≤ last`, the window of a read starts and
keeps texts as `wireNumbers` numbers them, and its last number is a word. The
one exception is a tail of no texts at the largest word. -/
theorem wireWindow_numbers {first last count total : Nat}
    (hbounds : first = 0 ∧ last = 0 ∨ 1 ≤ first ∧ first ≤ last)
    (hlast : last < wordBound) (htotal : total < wordBound) (hcount : count < wordBound)
    (hroom : ¬(first = 0 ∧ count = 0 ∧ total = wordMax)) :
    ∃ start keep, wireWindow first last count total = .ok (start, keep) ∧
      List.range' start (min keep count) = wireNumbers first last count total ∧
      start + min keep count ≤ wordBound := by
  have hmax : wordMax + 1 = wordBound := by decide
  rcases hbounds with ⟨rfl, rfl⟩ | ⟨hfirst, hle⟩
  · -- a tail starts one past the length less the texts; only an empty tail at
    -- the largest word has no such start
    have hstart : total - count + 1 < wordBound := by
      by_cases h0 : count = 0
      · have : total ≠ wordMax := fun h => hroom ⟨rfl, h0, h⟩
        omega
      · omega
    refine ⟨total - count + 1, count, ?_, ?_, ?_⟩
    · simp only [wireWindow, and_self, if_true, Word.add_eq_ok hstart]
      rfl
    · simp only [wireNumbers, and_self, if_true, Nat.min_self]
      split
      · congr 1
        omega
      · congr 1
        omega
    · omega
  · have hspan : last - first + 1 < wordBound := by omega
    have hne : ¬(first = 0 ∧ last = 0) := by omega
    refine ⟨first, min count (last - first + 1), ?_, ?_, ?_⟩
    · simp only [wireWindow, if_neg hne, Word.add_eq_ok hspan, Nat.max_eq_left hfirst]
      rfl
    · simp only [wireNumbers, if_neg hne]
      rw [Nat.min_comm (min count _) count, ← Nat.min_assoc, Nat.min_self]
    · omega

/-- A read, for bounds `0, 0` or `1 ≤ first ≤ last`, every text list and every
length that fit in a word, but an empty tail at the largest word, returns the
reported length and the first texts, in order, numbered as `wireNumbers` says. -/
theorem ofTexts_eq_wireNumbers {first last total : Nat} {texts : List String}
    (hbounds : first = 0 ∧ last = 0 ∨ 1 ≤ first ∧ first ≤ last)
    (hlast : last < wordBound) (htotal : total < wordBound) (hcount : texts.length < wordBound)
    (hroom : ¬(first = 0 ∧ texts = [] ∧ total = wordMax)) :
    ∃ chunk, ofTexts first last texts total = .ok chunk ∧ chunk.totalLines = total ∧
      chunk.lines.map (·.number) = wireNumbers first last texts.length total ∧
      chunk.lines.map (·.text) = texts.take chunk.lines.length := by
  obtain ⟨start, keep, hw, hnum, hfit⟩ := wireWindow_numbers hbounds hlast htotal hcount
    (fun ⟨h0, hnil, hmax⟩ => hroom ⟨h0, List.eq_nil_of_length_eq_zero hnil, hmax⟩)
  obtain ⟨ls, hls, hlnum, hltext⟩ := numberFrom_ok start (texts.take keep) (i := 0)
    (by rw [List.length_take, Nat.add_zero]; exact hfit)
  have hof : ofTexts first last texts total = .ok ⟨ls, total⟩ := by
    unfold ofTexts
    rw [hw]
    show (numberFrom start (texts.take keep) 0 >>= fun lines => pure (LogChunk.mk lines total)) = _
    rw [hls]
    rfl
  -- the lines carry the numbers `wireNumbers` gives, one per kept text
  refine ⟨⟨ls, total⟩, hof, rfl, by rw [hlnum, List.length_take, Nat.add_zero, hnum], ?_⟩
  show ls.map (·.text) = texts.take ls.length
  rw [hltext, ← List.length_map (f := (·.text)), hltext]
  simp

/-- The numbers of a read, for bounds `0, 0` or `1 ≤ first ≤ last` and words, but an
empty tail at the largest word: the first texts, numbered as `wireNumbers` says. -/
theorem ofTexts_numbering {first last total : Nat} {texts : List String}
    (hbounds : first = 0 ∧ last = 0 ∨ 1 ≤ first ∧ first ≤ last)
    (hlast : last < wordBound) (htotal : total < wordBound) (hcount : texts.length < wordBound)
    (hroom : ¬(first = 0 ∧ texts = [] ∧ total = wordMax)) :
    ∃ chunk, ofTexts first last texts total = .ok chunk ∧ chunk.totalLines = total ∧
      chunk.lines.map (·.number) = wireNumbers first last texts.length total ∧
      chunk.lines.map (·.text) = texts.take chunk.lines.length ∧
      chunk.firstLine? = (wireNumbers first last texts.length total).head? ∧
      chunk.lastLine? = (wireNumbers first last texts.length total).getLast? ∧
      (1 ≤ first → chunk.lines.length = min texts.length (last - first + 1) ∧
        ∀ l ∈ chunk.lines, first ≤ l.number ∧ l.number ≤ last) ∧
      (first = 0 → chunk.lines.length = texts.length ∧
        (texts ≠ [] → texts.length ≤ total → chunk.lastLine? = some total) ∧
        (total < texts.length → chunk.firstLine? = some 1)) := by
  obtain ⟨⟨ls, total'⟩, hof, rfl, hnums, htexts⟩ :=
    ofTexts_eq_wireNumbers hbounds hlast htotal hcount hroom
  have hlen : ls.length = (wireNumbers first last texts.length total').length := by
    rw [← hnums, List.length_map]
  refine ⟨⟨ls, total'⟩, hof, rfl, hnums, htexts, ?_, ?_, fun hfirst => ?_, fun h0 => ?_⟩
  · show ls.head?.map (·.number) = _
    rw [← List.head?_map, hnums]
  · show ls.getLast?.map (·.number) = _
    rw [← List.getLast?_map, hnums]
  · have hrange : ls.map (·.number) = List.range' first (min texts.length (last - first + 1)) := by
      rw [hnums, wireNumbers, if_neg (by omega)]
    refine ⟨by simpa using congrArg List.length hrange, fun l hl => ?_⟩
    have hmem := List.mem_range'_1.mp (hrange ▸ List.mem_map_of_mem (f := LogLine.number) hl)
    omega
  · have htail : first = 0 ∧ last = 0 := by omega
    refine ⟨by rw [hlen, wireNumbers, if_pos htail]; split <;> simp, fun hne hle => ?_,
      fun hlt => ?_⟩
    · have hpos : 0 < texts.length := List.length_pos_iff.mpr hne
      show ls.getLast?.map (·.number) = _
      rw [← List.getLast?_map, hnums, wireNumbers, if_pos htail, if_pos hle,
        List.getLast?_range', if_neg (by omega)]
      congr 1
      omega
    · show ls.head?.map (·.number) = _
      rw [← List.head?_map, hnums, wireNumbers, if_pos htail, if_neg (by omega),
        List.head?_range', if_neg (by omega)]

/-- A tail of two texts reporting a one-line log starts at line 1. -/
theorem ofTexts_numbering_short_tail :
    ((0 = 0 ∧ 0 = 0) ∨ 1 ≤ 0 ∧ 0 ≤ 0) ∧ 0 < wordBound ∧ 1 < wordBound ∧
      ["a", "b"].length < wordBound ∧ ¬(0 = 0 ∧ ["a", "b"] = [] ∧ 1 = wordMax) ∧
      ∃ chunk, ofTexts 0 0 ["a", "b"] 1 = .ok chunk ∧ chunk.firstLine? = some 1 := by
  have hbounds : ((0 = 0 ∧ 0 = 0) ∨ 1 ≤ 0 ∧ 0 ≤ 0) := .inl ⟨rfl, rfl⟩
  have hroom : ¬(0 = 0 ∧ ["a", "b"] = [] ∧ 1 = wordMax) := by decide
  have hcount : ["a", "b"].length < wordBound := by decide
  obtain ⟨chunk, hof, -, -, -, -, -, -, htail⟩ :=
    ofTexts_numbering hbounds (by decide) (by decide) hcount hroom
  obtain ⟨-, -, hfirst⟩ := htail rfl
  exact ⟨hbounds, by decide, by decide, hcount, hroom, chunk, hof, hfirst (by decide)⟩

/-- An empty tail reporting the largest word as the log's length: its window
would start one past the length, outside the word, so the read stops. -/
theorem ofTexts_empty_tail_at_wordMax : ofTexts 0 0 [] wordMax = .error .add :=
  rfl

end LogChunk

end TaskConsole
