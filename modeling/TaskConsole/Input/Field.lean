import TaskConsole.Input.Key
import TaskConsole.Text.Width
import TaskConsole.Text.Blank

/-! Editable text fields with a cursor, edited by keys as a terminal text area with
emacs-style bindings does: moves, selections, cut and paste, and fifty steps of undo. -/

namespace TaskConsole.Input

/-- A position in a field: row and column, in characters. -/
abbrev Spot := Nat × Nat

/-- Whether `a` comes before `b` in reading order. -/
def Spot.lt (a b : Spot) : Bool :=
  a.1 < b.1 || (a.1 == b.1 && a.2 < b.2)

/-- What a paste inserts: a piece of one line, or text over several lines. -/
inductive Clip where
  | piece (text : List Char)
  | lines (parts : List (List Char))
  deriving DecidableEq, Repr

/-- One change of a field's text: the lines and the cursor before and after. -/
structure Change where
  before : List (List Char)
  cursorBefore : Spot
  after : List (List Char)
  cursorAfter : Spot
  deriving DecidableEq, Repr

/-- The kinds of characters that words are made of. -/
inductive CharKind where
  | blank
  | punctuation
  | other
  deriving DecidableEq, Repr

/-- The kind of a character. -/
def CharKind.of (c : Char) : CharKind :=
  let n := c.toNat
  if Text.isBlank c then .blank
  else if (0x21 ≤ n && n ≤ 0x2F) || (0x3A ≤ n && n ≤ 0x40) || (0x5B ≤ n && n ≤ 0x60) ||
      (0x7B ≤ n && n ≤ 0x7E) then .punctuation
  else .other

/-- Scan forward from column `col`, the previous character of kind `prev`, for
the first column where `stop prev current` holds. -/
def scanForward (stop : CharKind → CharKind → Bool) : CharKind → Nat → List Char → Option Nat
  | _, _, [] => none
  | prev, col, c :: rest =>
    let cur := CharKind.of c
    if stop prev cur then some col else scanForward stop cur (col + 1) rest

/-- The column where the next word starts after column `start`, if one does on
the line. -/
def wordStartForward (line : List Char) (start : Nat) : Option Nat :=
  match line.drop start with
  | [] => none
  | c :: rest => scanForward (fun prev cur => cur != .blank && prev != cur) (.of c) (start + 1) rest

/-- The column just after the word at or after column `start`, if the word ends
before the line does. -/
def wordEndForward (line : List Char) (start : Nat) : Option Nat :=
  match line.drop start with
  | [] => none
  | c :: rest => scanForward (fun prev cur => prev != .blank && prev != cur) (.of c) (start + 1) rest

/-- Scan backward over `cs`, the characters before the cursor nearest first,
`i` of them passed, the last of kind `cur`. -/
def scanBackward (start : Nat) : CharKind → Nat → List Char → Option Nat
  | cur, _, [] => if cur != .blank then some 0 else none
  | cur, i, c :: rest =>
    let next := CharKind.of c
    if cur != .blank && next != cur then some (start - i) else scanBackward start next (i + 1) rest

/-- The column where the word before column `start` begins, if there is one. -/
def wordStartBackward (line : List Char) (start : Nat) : Option Nat :=
  match (line.take start).reverse with
  | [] => none
  | c :: rest => scanBackward start (.of c) 1 rest

/-- The ways the cursor moves. -/
inductive Move where
  | forward
  | back
  | up
  | down
  | head
  | lineEnd
  | top
  | bottom
  | wordForward
  | wordBack
  | paragraphForward
  | paragraphBack
  /-- Into the visible part of the field. -/
  | intoView
  deriving DecidableEq, Repr

/-- A column kept within a line. -/
def fitCol (col : Nat) (line : List Char) : Nat := min col line.length

/-- The first row after `row`, scanning down, that starts a paragraph: a line
that is not empty after an empty one. -/
def paragraphBelow (lines : List (List Char)) (prevEmpty : Bool) (row : Nat) :
    List (List Char) → Option Nat
  | [] => none
  | l :: rest =>
    if !l.isEmpty && prevEmpty then some row else paragraphBelow lines l.isEmpty (row + 1) rest

/-- Scanning up from row `row`, below which lies a line that `belowEmpty`
says is empty or not, the first row whose successor starts a paragraph. -/
def paragraphAbove (lines : List (List Char)) (belowEmpty : Bool) : Nat → Option Nat
  | 0 => none
  | row + 1 =>
    let empty := (lines.getD row []).isEmpty
    if empty && !belowEmpty then some (row + 1) else paragraphAbove lines empty row

/-- Where a move takes the cursor, if it can move. -/
def Move.next (m : Move) (lines : List (List Char)) (pos : Spot) : Option Spot :=
  let (row, col) := pos
  let line (r : Nat) := lines.getD r []
  let last := lines.length - 1
  match m with
  | .forward =>
    if (line row).length ≤ col then
      if row + 1 < lines.length then some (row + 1, 0) else none
    else some (row, col + 1)
  | .back =>
    if col == 0 then
      if row == 0 then none else some (row - 1, (line (row - 1)).length)
    else some (row, col - 1)
  | .up => if row == 0 then none else some (row - 1, fitCol col (line (row - 1)))
  | .down => if row + 1 < lines.length then some (row + 1, fitCol col (line (row + 1))) else none
  | .head => some (row, 0)
  | .lineEnd => some (row, (line row).length)
  | .top => some (0, fitCol col (line 0))
  | .bottom => some (last, fitCol col (line last))
  | .wordForward =>
    match wordStartForward (line row) col with
    | some c => some (row, c)
    | none => if row + 1 < lines.length then some (row + 1, 0) else some (row, (line row).length)
  | .wordBack =>
    match wordStartBackward (line row) col with
    | some c => some (row, c)
    | none => if row == 0 then some (row, 0) else some (row - 1, (line (row - 1)).length)
  | .paragraphForward =>
    match paragraphBelow lines (line row).isEmpty (row + 1) (lines.drop (row + 1)) with
    | some r => some (r, fitCol col (line r))
    | none => some (last, fitCol col (line last))
  | .paragraphBack =>
    if row == 0 then none
    else
      match paragraphAbove lines (line (row - 1)).isEmpty (row - 1) with
      | some r => some (r, fitCol col (line r))
      | none => some (0, fitCol col (line 0))
  | .intoView => some (0, 0)

/-- The most changes a field remembers. -/
def historyLimit : Nat := 50

/-- An editable text, its cursor, selection, clipboard and change history. -/
structure TextField where
  lines : List (List Char) := [[]]
  cursor : Spot := (0, 0)
  /-- Where the selection started, while one is being made. -/
  anchor : Option Spot := none
  clip : Clip := .piece []
  /-- The remembered changes, oldest first. -/
  changes : List Change := []
  /-- How many of the remembered changes are in effect; the rest were undone. -/
  applied : Nat := 0
  deriving DecidableEq, Repr

namespace TextField

/-- The columns between tab stops. -/
def tabWidth : Nat := 4

/-- The text, lines joined by line feeds. -/
def text (f : TextField) : String :=
  "\n".intercalate (f.lines.map String.ofList)

/-- Line `r` of the text. -/
def line (f : TextField) (r : Nat) : List Char :=
  f.lines.getD r []

/-- Remember the change that led from `before` to the field's text, the cursor
having been at `start`. Undone changes are forgotten, and the oldest change
when the history is full. -/
def record (f : TextField) (before : List (List Char)) (start : Spot) : TextField :=
  let c : Change := { before, cursorBefore := start, after := f.lines, cursorAfter := f.cursor }
  let (changes, applied) :=
    if f.changes.length == historyLimit then (f.changes.drop 1, f.applied - 1)
    else (f.changes, f.applied)
  let changes := if applied < changes.length then changes.take applied else changes
  { f with changes := changes ++ [c], applied := applied + 1 }

/-- The selected span, start first; none when nothing or nothing but the
cursor is selected. -/
def selection (f : TextField) : Option (Spot × Spot) :=
  match f.anchor with
  | none => none
  | some a =>
    if a.lt f.cursor then some (a, f.cursor)
    else if a == f.cursor then none
    else some (f.cursor, a)

/-- Remove the text from `s` to `e`, leaving the cursor at `s`; with `keep`
the removed text becomes the clipboard. -/
def deleteRange (f : TextField) (s e : Spot) (keep : Bool) : TextField :=
  if s.1 == e.1 then
    let l := f.line s.1
    let removed := (l.drop s.2).take (e.2 - s.2)
    let g := { f with lines := f.lines.set s.1 (l.take s.2 ++ l.drop e.2), cursor := s,
                      clip := if keep then .piece removed else f.clip }
    g.record f.lines e
  else
    let first := f.line s.1
    let last := f.line e.1
    let removed := [first.drop s.2] ++ (f.lines.drop (s.1 + 1)).take (e.1 - s.1 - 1) ++ [last.take e.2]
    let g := { f with
      lines := f.lines.take s.1 ++ [first.take s.2 ++ last.drop e.2] ++ f.lines.drop (e.1 + 1),
      cursor := s, clip := if keep then .lines removed else f.clip }
    g.record f.lines e

/-- End the selection, removing the selected text if there is any; the flag
says whether text was removed. -/
def dropSelection (f : TextField) (keep : Bool) : TextField × Bool :=
  let g := { f with anchor := none }
  match f.selection with
  | some (s, e) => (g.deleteRange s e keep, true)
  | none => (g, false)

/-- Split the line at the cursor, replacing the selection. -/
def insertNewline (f : TextField) : TextField :=
  let f := (f.dropSelection false).1
  let (r, k) := f.cursor
  let l := f.line r
  let g := { f with lines := f.lines.take r ++ [l.take k, l.drop k] ++ f.lines.drop (r + 1),
                    cursor := (r + 1, 0) }
  g.record f.lines (r, k)

/-- Insert one character, replacing the selection; a line feed or carriage
return breaks the line. -/
def insertChar (f : TextField) (c : Char) : TextField :=
  if c == '\n' || c == '\r' then f.insertNewline
  else
    let f := (f.dropSelection false).1
    let (r, k) := f.cursor
    let l := f.line r
    let g := { f with lines := f.lines.set r (l.take k ++ c :: l.drop k), cursor := (r, k + 1) }
    g.record f.lines (r, k)

/-- Insert characters of one line at the cursor, which moves past them; nothing
happens for none. -/
def insertPiece (f : TextField) (cs : List Char) : TextField :=
  if cs.isEmpty then f
  else
    let (r, k) := f.cursor
    let l := f.line r
    let g := { f with lines := f.lines.set r (l.take k ++ cs ++ l.drop k), cursor := (r, k + cs.length) }
    g.record f.lines (r, k)

/-- Insert text of several lines at the cursor, which moves to its end. -/
def insertLines (f : TextField) (parts : List (List Char)) : TextField :=
  let (r, k) := f.cursor
  let l := f.line r
  let first := parts.headD []
  let last := parts.getLastD []
  let middle := (parts.drop 1).dropLast
  let g := { f with
    lines := f.lines.take r ++ [l.take k ++ first] ++ middle ++ [last ++ l.drop k] ++ f.lines.drop (r + 1),
    cursor := (r + parts.length - 1, last.length) }
  g.record f.lines (r, k)

/-- Pad with spaces up to the next tab stop, replacing the selection. -/
def insertTab (f : TextField) : TextField :=
  let f := (f.dropSelection false).1
  let (r, k) := f.cursor
  let used := Text.width ((f.line r).take k)
  f.insertPiece (List.replicate (tabWidth - used % tabWidth) ' ')

/-- Join the cursor's line to the one above, if there is one; the flag says
whether it happened. -/
def joinAbove (f : TextField) : TextField × Bool :=
  let r := f.cursor.1
  if r == 0 then (f, false)
  else
    let above := f.line (r - 1)
    let g := { f with lines := f.lines.take (r - 1) ++ [above ++ f.line r] ++ f.lines.drop (r + 1),
                      cursor := (r - 1, above.length) }
    (g.record f.lines (r, 0), true)

/-- Remove the selection, or the character before the cursor, or the line
break before the line at its start. -/
def backspace (f : TextField) : TextField :=
  match f.dropSelection false with
  | (g, true) => g
  | (f, false) =>
    let (r, k) := f.cursor
    if k == 0 then f.joinAbove.1
    else
      let l := f.line r
      let g := { f with lines := f.lines.set r (l.take (k - 1) ++ l.drop k), cursor := (r, k - 1) }
      g.record f.lines (r, k)

/-- Move the cursor; with `extend`, a selection starts where it was, and
without it the selection ends. Nothing happens when the move is impossible. -/
def moveBy (f : TextField) (m : Move) (extend : Bool) : TextField :=
  match m.next f.lines f.cursor with
  | none => f
  | some p =>
    let anchor := if extend then (match f.anchor with | some a => some a | none => some f.cursor) else none
    { f with cursor := p, anchor }

/-- Remove the selection, or the character under the cursor, or the line break
after the line at its end. -/
def deleteNext (f : TextField) : TextField :=
  match f.dropSelection false with
  | (g, true) => g
  | (f, false) =>
    match Move.forward.next f.lines f.cursor with
    | none => f
    | some p => backspace { f with cursor := p }

/-- Cut up to `n` characters of the cursor's line from column `k` into the
clipboard, leaving the cursor at `k`; none when there is nothing to cut. -/
def cutPiece (f : TextField) (k n : Nat) : Option TextField :=
  let r := f.cursor.1
  let l := f.line r
  if n == 0 || l.length ≤ k then none
  else
    let removed := (l.drop k).take n
    let g := { f with lines := f.lines.set r (l.take k ++ l.drop (k + removed.length)), cursor := (r, k),
                      clip := .piece removed }
    some (g.record f.lines (r, k + removed.length))

/-- Remove the selection, or cut to the end of the line, or join the next line
at the end. -/
def cutToEnd (f : TextField) : TextField :=
  match f.dropSelection false with
  | (g, true) => g
  | (f, false) =>
    match f.cutPiece f.cursor.2 ((f.line f.cursor.1).length + 1) with
    | some g => g
    | none => f.deleteNext

/-- Remove the selection, or cut from the start of the line, or join the line
to the one above at its start. -/
def cutToStart (f : TextField) : TextField :=
  match f.dropSelection false with
  | (g, true) => g
  | (f, false) =>
    match f.cutPiece 0 f.cursor.2 with
    | some g => g
    | none => f.joinAbove.1

/-- Remove the selection, or cut the word before the cursor, or join the line
to the one above at its start. -/
def deleteWordBack (f : TextField) : TextField :=
  match f.dropSelection false with
  | (g, true) => g
  | (f, false) =>
    let (r, k) := f.cursor
    match wordStartBackward (f.line r) k with
    | some c => (f.cutPiece c (k - c)).getD f
    | none => if k > 0 then (f.cutPiece 0 k).getD f else f.joinAbove.1

/-- Remove the selection, or cut the word after the cursor, or join the next
line at the end. -/
def deleteWordForward (f : TextField) : TextField :=
  match f.dropSelection false with
  | (g, true) => g
  | (f, false) =>
    let (r, k) := f.cursor
    let l := f.line r
    match wordEndForward l k with
    | some c => (f.cutPiece k (c - k)).getD f
    | none =>
      if k < l.length then (f.cutPiece k (l.length - k)).getD f
      else if r + 1 < f.lines.length then { f with cursor := (r + 1, 0) }.joinAbove.1
      else f

/-- Cut the selection into the clipboard. -/
def cut (f : TextField) : TextField :=
  (f.dropSelection true).1

/-- Copy the selection into the clipboard, ending the selection; the text
stays as it is. -/
def copy (f : TextField) : TextField :=
  let g := { f with anchor := none }
  match f.selection with
  | none => g
  | some (s, e) =>
    if s.1 == e.1 then { g with clip := .piece (((f.line s.1).drop s.2).take (e.2 - s.2)) }
    else
      { g with clip := .lines ([(f.line s.1).drop s.2] ++ (f.lines.drop (s.1 + 1)).take (e.1 - s.1 - 1) ++
          [(f.line e.1).take e.2]) }

/-- Copying leaves the text as it is. -/
theorem lines_copy (f : TextField) : f.copy.lines = f.lines := by
  unfold copy
  split
  · rfl
  · split <;> rfl

/-- After a copy nothing is selected. -/
theorem anchor_copy (f : TextField) : f.copy.anchor = none := by
  unfold copy
  split
  · rfl
  · split <;> rfl

/-- Insert the clipboard, replacing the selection. -/
def paste (f : TextField) : TextField :=
  let f := (f.dropSelection false).1
  match f.clip with
  | .piece cs => f.insertPiece cs
  | .lines parts => f.insertLines parts

/-- Take back the last change in effect. -/
def undo (f : TextField) : TextField :=
  match f.applied, f.changes[f.applied - 1]? with
  | n + 1, some c => { f with lines := c.before, cursor := c.cursorBefore, anchor := none, applied := n }
  | _, _ => f

/-- Make the first undone change again. -/
def redo (f : TextField) : TextField :=
  match f.changes[f.applied]? with
  | some c => { f with lines := c.after, cursor := c.cursorAfter, anchor := none, applied := f.applied + 1 }
  | none => f

/-- Page through the field: the cursor moves into the visible part; with
`extend`, the selection starts where it was. -/
def page (f : TextField) (extend : Bool) : TextField :=
  let f := if extend && f.anchor.isNone then { f with anchor := some f.cursor } else f
  f.moveBy .intoView extend

/-- The field after a key press. -/
def edit (f : TextField) (k : KeyPress) : TextField :=
  let s := k.shift
  match k.code, k.ctrl, k.alt with
  | .char 'm', true, false => f.insertNewline
  | .enter, _, _ => f.insertNewline
  | .char c, false, false => f.insertChar c
  | .tab, false, false => f.insertTab
  | .char 'h', true, false => f.backspace
  | .backspace, false, false => f.backspace
  | .char 'd', true, false => f.deleteNext
  | .delete, false, false => f.deleteNext
  | .char 'k', true, false => f.cutToEnd
  | .char 'j', true, false => f.cutToStart
  | .char 'w', true, false => f.deleteWordBack
  | .char 'h', false, true => f.deleteWordBack
  | .backspace, false, true => f.deleteWordBack
  | .delete, false, true => f.deleteWordForward
  | .char 'd', false, true => f.deleteWordForward
  | .char 'n', true, false => f.moveBy .down s
  | .down, false, false => f.moveBy .down s
  | .char 'p', true, false => f.moveBy .up s
  | .up, false, false => f.moveBy .up s
  | .char 'f', true, false => f.moveBy .forward s
  | .right, false, false => f.moveBy .forward s
  | .char 'b', true, false => f.moveBy .back s
  | .left, false, false => f.moveBy .back s
  | .char 'a', true, false => f.moveBy .head s
  | .homeKey, _, _ => f.moveBy .head s
  | .left, true, true => f.moveBy .head s
  | .char 'b', true, true => f.moveBy .head s
  | .char 'e', true, false => f.moveBy .lineEnd s
  | .endKey, _, _ => f.moveBy .lineEnd s
  | .right, true, true => f.moveBy .lineEnd s
  | .char 'f', true, true => f.moveBy .lineEnd s
  | .char '<', false, true => f.moveBy .top s
  | .up, true, true => f.moveBy .top s
  | .char 'p', true, true => f.moveBy .top s
  | .char '>', false, true => f.moveBy .bottom s
  | .down, true, true => f.moveBy .bottom s
  | .char 'n', true, true => f.moveBy .bottom s
  | .char 'f', false, true => f.moveBy .wordForward s
  | .right, true, false => f.moveBy .wordForward s
  | .char 'b', false, true => f.moveBy .wordBack s
  | .left, true, false => f.moveBy .wordBack s
  | .char ']', false, true => f.moveBy .paragraphForward s
  | .char 'n', false, true => f.moveBy .paragraphForward s
  | .down, true, false => f.moveBy .paragraphForward s
  | .char '[', false, true => f.moveBy .paragraphBack s
  | .char 'p', false, true => f.moveBy .paragraphBack s
  | .up, true, false => f.moveBy .paragraphBack s
  | .char 'u', true, false => f.undo
  | .char 'r', true, false => f.redo
  | .char 'y', true, false => f.paste
  | .char 'x', true, false => f.cut
  | .char 'c', true, false => f.copy
  | .char 'v', true, false => f.page s
  | .pageDown, _, _ => f.page s
  | .char 'v', false, true => f.page s
  | .pageUp, _, _ => f.page s
  | _, _, _ => f

/-- The field after typing each character of `s`. -/
def typed (f : TextField) (s : String) : TextField :=
  s.toList.foldl (fun f c => f.edit { code := .char c }) f

example : (({} : TextField).typed "ab").text = "ab" := by decide
example : (((({} : TextField).typed "ab").edit { code := .left }).typed "x").text = "axb" := by decide
example : ((({} : TextField).typed "hello world").edit { code := .char 'w', ctrl := true }).text =
    "hello " := by decide
example : ((({} : TextField).typed "abc").edit { code := .char 'u', ctrl := true }).text = "ab" := by decide

end TextField

end TaskConsole.Input
