import TaskConsole.Service.LogRead
import TaskConsole.Proofs.Url.Query
import TaskConsole.Proofs.Numbering

/-! How a range read asks and what it keeps: one line more for a one-line read, texts
numbered from `first`, nothing kept past `last`
(`range_read_asks_wider_keeps_bounds`). -/

namespace TaskConsole

/-- The characters of a decimal numeral are digits. -/
theorem isDigit_of_mem_toString {n : Nat} {c : Char} (h : c ∈ (toString n).toList) : c.isDigit := by
  rw [Nat.toString_eq_ofList_toDigits, String.toList_ofList] at h
  exact Nat.isDigit_of_mem_toDigits (by decide) (by decide) h

/-- Form encoding leaves a decimal numeral as it is. -/
theorem formEncode_toString (n : Nat) : formEncode (toString n) = toString n := by
  have hkeep : ∀ c ∈ (toString n).toList, formChar c = [c] := by
    intro c hc
    have hd := isDigit_of_mem_toString hc
    have hsp : c ≠ ' ' := fun e => by subst e; simp at hd
    simp [formChar, hsp, Char.isAlphanum, hd]
  unfold formEncode
  rw [List.flatMap_def, List.map_congr_left hkeep, ← List.flatMap_def, List.flatMap_singleton',
    String.ofList_toList]

/-- Two pairs appended to a URL without a query are its whole query. -/
theorem appendPairs_two_query {u : Url} (h : u.query = none) (k₁ v₁ k₂ v₂ : String) :
    (appendPairs u [(k₁, v₁), (k₂, v₂)]).query =
      some (formEncode k₁ ++ "=" ++ formEncode v₁ ++ "&" ++ formEncode k₂ ++ "=" ++ formEncode v₂) := by
  simp [appendPairs, h, String.append_assoc]

/-- The upper bound a read of `first..last` asks the logs endpoint for: the
endpoint refuses a range that does not grow, so a one-line read asks for one
line more. -/
def requestedLast (first last : Nat) : Nat := if first < last then last else first + 1

/-- The range asked for grows. -/
theorem lt_requestedLast (first last : Nat) : first < requestedLast first last := by
  unfold requestedLast
  split <;> omega

/-- The range asked for covers the range read. -/
theorem le_requestedLast {first last : Nat} (h : first ≤ last) : last ≤ requestedLast first last := by
  unfold requestedLast
  split <;> omega

/-- For a range from line 1 on, the logs URL is the endpoint of the task's log
with the lower bound and the requested upper bound as its query pairs. -/
theorem logsUrl_range {base : Url} {task first last : Nat} (hfirst : 0 < first)
    (hle : first ≤ last) (hfit : requestedLast first last < wordBound) :
    logsUrl base task first last =
      .ok ((endpointUrl base ("tasks/" ++ toString task ++ "/logs")).map fun url =>
        appendPairs url [("from", toString first), ("to", toString (requestedLast first last))]) := by
  unfold logsUrl
  cases endpointUrl base ("tasks/" ++ toString task ++ "/logs") with
  | error e => rfl
  | ok url =>
    dsimp only
    rw [if_pos ⟨hfirst, by omega⟩]
    by_cases hlt : first < last
    · rw [if_neg (by omega)]
      simp [requestedLast, hlt]
      rfl
    · have hfit' : first + 1 < wordBound := by simpa [requestedLast, hlt] using hfit
      rw [if_pos (by omega), Word.add_eq_ok hfit']
      simp [requestedLast, hlt]
      rfl

/-- A decimal digit is a path character. -/
theorem pathChar_of_isDigit {c : Char} (h : c.isDigit) :
    0x20 < c.toNat ∧ c ≠ ':' ∧ c ≠ '?' ∧ c ≠ '#' := by
  have hr := Char.isDigit_iff_toNat.mp h
  have h0 : '0'.toNat = 48 := rfl
  have h9 : '9'.toNat = 57 := rfl
  refine ⟨by omega, fun e => ?_, fun e => ?_, fun e => ?_⟩ <;> (subst e; simp at hr)

/-- The URL of a task's log has no query before the bounds of a read are added. -/
theorem endpointUrl_logs_query {base url : Url} {task : Nat}
    (h : endpointUrl base ("tasks/" ++ toString task ++ "/logs") = .ok url) : url.query = none := by
  have hlist : ("tasks/" ++ toString task ++ "/logs").toList =
      't' :: ("asks/".toList ++ (toString task).toList ++ "/logs".toList) := by
    simp only [String.toList_append]
    rfl
  have hdrop : String.ofList (("tasks/" ++ toString task ++ "/logs").toList.dropWhile (· == '/')) =
      "tasks/" ++ toString task ++ "/logs" := by
    rw [hlist, List.dropWhile_cons_of_neg (by decide), ← hlist, String.ofList_toList]
  unfold endpointUrl at h
  rw [hdrop] at h
  refine Url.join_query_none (fun c hc => ?_) ⟨'t', _, hlist, by decide, by decide⟩ h
  simp only [String.toList_append, List.mem_append] at hc
  rcases hc with (hc | hc) | hc
  · -- the characters of the fixed parts, one by one
    simp only [show "tasks/".toList = ['t', 'a', 's', 'k', 's', '/'] from rfl, List.mem_cons,
      List.not_mem_nil, or_false] at hc
    rcases hc with rfl | rfl | rfl | rfl | rfl | rfl <;> decide
  · exact pathChar_of_isDigit (isDigit_of_mem_toString hc)
  · simp only [show "/logs".toList = ['/', 'l', 'o', 'g', 's'] from rfl, List.mem_cons,
      List.not_mem_nil, or_false] at hc
    rcases hc with rfl | rfl | rfl | rfl | rfl <;> decide

/-- The bounds a read accepts: the tail, or a range from line 1 on that does not
end before it starts. -/
theorem readBounds_iff {first last : Nat} :
    readBounds first last = true ↔ first = 0 ∧ last = 0 ∨ 1 ≤ first ∧ first ≤ last := by
  unfold readBounds
  have h1 : (first == 0) = decide (first = 0) := rfl
  have h2 : (last == 0) = decide (last = 0) := rfl
  by_cases hf : first = 0 <;> by_cases hl : last = 0 <;> simp [h1, h2, hf, hl]
  -- two positive bounds: the range starts at line 1 at the latest
  omega

/-- Bounds that name no read fail as an invalid range, before any request. -/
theorem fetchLogRange_refused (exchange : Exchange) (base : Url) {task first last : Nat}
    (h : readBounds first last = false) :
    fetchLogRange exchange base task first last = .ok (.error (.invalidRange first last)) := by
  simp [fetchLogRange, h]
  rfl

/-- A range read of `first..last` with `1 ≤ first ≤ last` numbers as many texts
as its bounds span, from `first` on, whatever the texts and the reported length. -/
theorem ofTexts_range {first last : Nat} (hfirst : 1 ≤ first) (hle : first ≤ last)
    (hlast : last < wordBound) (texts : List String) (total : Nat) :
    ∃ chunk, LogChunk.ofTexts first last texts total = .ok chunk ∧ chunk.totalLines = total ∧
      chunk.lines.map (·.number) = List.range' first (min texts.length (last - first + 1)) ∧
      ∀ l ∈ chunk.lines, first ≤ l.number ∧ l.number ≤ last := by
  have hspan : last - first + 1 < wordBound := by omega
  have hwin : LogChunk.wireWindow first last texts.length total =
      .ok (first, min texts.length (last - first + 1)) := by
    simp only [LogChunk.wireWindow, if_neg (show ¬(first = 0 ∧ last = 0) by omega),
      Word.add_eq_ok hspan, Nat.max_eq_left hfirst]
    rfl
  obtain ⟨ls, hls, hnum, -⟩ := LogChunk.numberFrom_ok first
    (texts.take (min texts.length (last - first + 1))) (i := 0)
    (by simp only [List.length_take]; omega)
  have hnum' : ls.map (·.number) = List.range' first (min texts.length (last - first + 1)) := by
    rw [hnum, List.length_take, Nat.add_zero, Nat.min_eq_left (Nat.min_le_left _ _)]
  refine ⟨⟨ls, total⟩, ?_, rfl, hnum', fun l hl => ?_⟩
  · unfold LogChunk.ofTexts
    rw [hwin]
    show (LogChunk.numberFrom first _ 0 >>= fun lines => pure (LogChunk.mk lines total)) = _
    rw [hls]
    rfl
  · -- every number lies in the run from `first` that the bounds span
    have hmem := List.mem_range'_1.mp (hnum' ▸ List.mem_map_of_mem (f := LogLine.number) hl)
    omega

/-- A read of a range whose requested bound is a word returns through any
exchange, and a chunk it returns holds only lines inside the range. -/
theorem fetchLogRange_within (exchange : Exchange) (base : Url) {task first last : Nat}
    (hfirst : 1 ≤ first) (hle : first ≤ last) (hfit : requestedLast first last < wordBound) :
    ∃ r, fetchLogRange exchange base task first last = .ok r ∧
      ∀ chunk, r = .ok chunk → ∀ l ∈ chunk.lines, first ≤ l.number ∧ l.number ≤ last := by
  have hvalid : readBounds first last = true := readBounds_iff.mpr (.inr ⟨hfirst, hle⟩)
  have hlast : last < wordBound := Nat.lt_of_le_of_lt (le_requestedLast hle) hfit
  unfold fetchLogRange
  simp only [hvalid, Bool.not_true]
  rw [logsUrl_range hfirst hle hfit, if_neg Bool.false_ne_true]
  -- every way the request can fail is an error of the read, not a stop
  have herr : ∀ e : LoadError, ∃ r, (pure (.error e) : Checked (Except LoadError LogChunk)) = .ok r ∧
      ∀ chunk, r = .ok chunk → ∀ l ∈ chunk.lines, first ≤ l.number ∧ l.number ≤ last :=
    fun e => ⟨_, rfl, fun _ h => by cases h⟩
  cases endpointUrl base ("tasks/" ++ toString task ++ "/logs") with
  | error e => exact herr _
  | ok url =>
    dsimp only [Except.map, bind, Except.bind]
    split
    · exact herr _
    · split
      · exact herr _
      · exact herr _
      · next payload _ =>
        obtain ⟨chunk, hc, -, -, hwithin⟩ :=
          ofTexts_range hfirst hle hlast payload.logs payload.totalLines
        refine ⟨.ok chunk, ?_, fun c h => ?_⟩
        · rw [hc]
          rfl
        · cases h
          exact hwithin

/-- The query a range read sends, for any base: the logs URL is formed exactly
when the endpoint of the task's log is, and then its query is the two bounds. -/
theorem logsUrl_query {base : Url} {task first last : Nat} (hfirst : 1 ≤ first)
    (hle : first ≤ last) (hfit : requestedLast first last < wordBound) :
    (logsUrl base task first last).map (fun r => r.map (·.query)) =
      .ok ((endpointUrl base ("tasks/" ++ toString task ++ "/logs")).map fun _ =>
        some ("from=" ++ toString first ++ "&to=" ++ toString (requestedLast first last))) := by
  rw [logsUrl_range hfirst hle hfit]
  cases hend : endpointUrl base ("tasks/" ++ toString task ++ "/logs") with
  | error e => rfl
  | ok url =>
    show Except.ok (Except.ok (appendPairs url _).query) = _
    rw [appendPairs_two_query (endpointUrl_logs_query hend), formEncode_toString,
      formEncode_toString, show formEncode "from" = "from" from rfl,
      show formEncode "to" = "to" from rfl]
    simp [String.append_assoc]
    rfl

/-- How a read of `first..last` asks and what it keeps: it asks for a range that
grows and keeps only lines of `first..last`, through any exchange. -/
theorem range_read_asks_wider_keeps_bounds (exchange : Exchange) (base : Url)
    (task first last : Nat) :
    (readBounds first last = true ↔ first = 0 ∧ last = 0 ∨ 1 ≤ first ∧ first ≤ last) ∧
    (readBounds first last = false →
      fetchLogRange exchange base task first last = .ok (.error (.invalidRange first last))) ∧
    (1 ≤ first → first ≤ last → requestedLast first last < wordBound →
      first < requestedLast first last ∧
      (logsUrl base task first last).map (fun r => r.map (·.query)) =
        .ok ((endpointUrl base ("tasks/" ++ toString task ++ "/logs")).map fun _ =>
          some ("from=" ++ toString first ++ "&to=" ++ toString (requestedLast first last))) ∧
      (∀ texts total, ∃ chunk, LogChunk.ofTexts first last texts total = .ok chunk ∧
        chunk.totalLines = total ∧ (∀ l ∈ chunk.lines, first ≤ l.number ∧ l.number ≤ last) ∧
        (first = last → chunk.lines.length ≤ 1)) ∧
      ∃ r, fetchLogRange exchange base task first last = .ok r ∧
        ∀ chunk, r = .ok chunk → ∀ l ∈ chunk.lines, first ≤ l.number ∧ l.number ≤ last) := by
  refine ⟨readBounds_iff, fetchLogRange_refused exchange base, fun hfirst hle hfit => ?_⟩
  have hlast : last < wordBound := Nat.lt_of_le_of_lt (le_requestedLast hle) hfit
  refine ⟨lt_requestedLast first last, logsUrl_query hfirst hle hfit,
    fun texts total => ?_, fetchLogRange_within exchange base hfirst hle hfit⟩
  obtain ⟨chunk, hc, htotal, hnum, hwithin⟩ := ofTexts_range hfirst hle hlast texts total
  refine ⟨chunk, hc, htotal, hwithin, fun hone => ?_⟩
  -- a one-line range spans one number
  have hlen := congrArg List.length hnum
  rw [List.length_map, List.length_range'] at hlen
  omega

/-- The service's default base, `http://localhost:8888/api/v1/`, as the client
keeps it. -/
def localBase : Url :=
  { scheme := "http", authority := some { host := .domain "localhost", port := some 8888 }, path := "/api/v1/" }

/-- A one-line read of line 1 through the service's default base asks for lines
1 to 2 and keeps at most line 1. -/
theorem range_read_asks_wider_keeps_bounds_one_line :
    1 ≤ 1 ∧ 1 ≤ 1 ∧ requestedLast 1 1 < wordBound ∧
      (logsUrl localBase 7 1 1).map (fun r => r.map (·.query)) =
        .ok (.ok (some "from=1&to=2")) ∧
      ∀ texts total, ∃ chunk, LogChunk.ofTexts 1 1 texts total = .ok chunk ∧
        chunk.totalLines = total ∧ (∀ l ∈ chunk.lines, 1 ≤ l.number ∧ l.number ≤ 1) ∧
        (1 = 1 → chunk.lines.length ≤ 1) := by
  have hfit : requestedLast 1 1 < wordBound := by decide
  obtain ⟨-, hquery, hread, -⟩ :=
    (range_read_asks_wider_keeps_bounds (fun _ => .error (.transport "refused"))
      localBase 7 1 1).2.2 (by decide) (by decide) hfit
  refine ⟨by decide, by decide, hfit, ?_, hread⟩
  rw [hquery]
  rfl

/-- A one-line read of the largest word: the bound it would ask for is one past
the word, and working it out stops on the overflow. -/
theorem logs_query_overflows_at_wordMax :
    logsUrl localBase 7 wordMax wordMax = .error .add := by
  rfl

end TaskConsole
