/-! Scanning text with committed choice: a reader succeeds or fails, and only an
uncommitted failure lets an alternative be tried; failures collect their notes. -/

namespace TaskConsole

namespace Scan

/-- The text still to read and its offset in bytes from the start. -/
structure Input where
  rest : List Char
  pos : Nat := 0

/-- A note a failure collects: what was being read, or what would have been
accepted there. -/
inductive Note where
  | label (what : String)
  | expected (what : String)

/-- A failed reading: whether it is committed, its notes from the innermost
out, and the cause given by a check that refused a value. -/
structure Failure where
  committed : Bool := false
  notes : List Note := []
  cause : Option String := none

/-- The text of a failure: `invalid` and the first label, then `expected`
and the expectations, then the cause, each on a line of its own. -/
def Failure.message (f : Failure) : String :=
  let label := f.notes.findSome? fun
    | .label w => some w
    | .expected _ => none
  let expected := f.notes.filterMap fun
    | .label _ => none
    | .expected w => some w
  let parts := (label.map ("invalid " ++ ·)).toList ++
    (if expected.isEmpty then [] else ["expected " ++ ", ".intercalate expected]) ++ f.cause.toList
  "\n".intercalate parts

end Scan

/-- A reader of text: from the text ahead, a value and the text after it, or
a failure and the text where it stopped. -/
abbrev Scan (α : Type) := EStateM Scan.Failure Scan.Input α

namespace Scan

variable {α β : Type}

/-! ## Single characters -/

/-- The character ahead, without reading it. -/
def peek : Scan (Option Char) := fun s => .ok s.rest.head? s

/-- The characters ahead, at most `n`, without reading them. -/
def peekMany (n : Nat) : Scan (List Char) := fun s => .ok (s.rest.take n) s

/-- The byte offset of the text ahead. -/
def offset : Scan Nat := fun s => .ok s.pos s

/-- Fail without committing, reading nothing. -/
def failure : Scan α := fun s => .error {} s

/-- Fail with a committed failure of cause `cause`, reading nothing. -/
def refuse (cause : String) : Scan α := fun s => .error { committed := true, cause := some cause } s

/-- Read a character that satisfies `p`. -/
def satisfy (p : Char → Bool) : Scan Char := fun s =>
  match s.rest with
  | c :: r => if p c then .ok c { rest := r, pos := s.pos + c.utf8Size } else .error {} s
  | [] => .error {} s

/-- Read any character. -/
def any : Scan Char := satisfy fun _ => true

/-- Read the character `c`. -/
def char (c : Char) : Scan Unit := fun s =>
  match satisfy (· == c) s with
  | .ok _ s' => .ok () s'
  | .error e s' => .error e s'

/-- Read the characters of `w`, or nothing when the text does not start
with them. -/
def word (w : String) : Scan Unit := fun s =>
  let cs := w.toList
  if s.rest.take cs.length == cs then .ok () { rest := s.rest.drop cs.length, pos := s.pos + w.utf8ByteSize }
  else .error {} s

/-- The end of the text. -/
def eof : Scan Unit := fun s => if s.rest.isEmpty then .ok () s else .error {} s

/-- Read at most `hi` characters that satisfy `p`; when fewer than `lo` are
there, fail having read nothing. -/
def takeBetween (lo hi : Nat) (p : Char → Bool) : Scan (List Char) := fun s =>
  let cs := (s.rest.takeWhile p).take hi
  if cs.length < lo then .error {} s
  else .ok cs { rest := s.rest.drop cs.length, pos := s.pos + (cs.map Char.utf8Size).foldl (· + ·) 0 }

/-- Read the characters that satisfy `p`, possibly none. -/
def takeWhile (p : Char → Bool) : Scan (List Char) := fun s =>
  let cs := s.rest.takeWhile p
  .ok cs { rest := s.rest.drop cs.length, pos := s.pos + (cs.map Char.utf8Size).foldl (· + ·) 0 }

/-- Read the characters that satisfy `p`, at least one. -/
def takeWhile1 (p : Char → Bool) : Scan (List Char) := fun s =>
  match takeWhile p s with
  | .ok [] _ => .error {} s
  | r => r

/-! ## Choice, commitment and notes -/

/-- Commit the failures of `p`. -/
def commit (p : Scan α) : Scan α := fun s =>
  match p s with
  | .error e s' => .error { e with committed := true } s'
  | r => r

/-- Add a note to the failures of `p`. -/
def note (n : Note) (p : Scan α) : Scan α := fun s =>
  match p s with
  | .error e s' => .error { e with notes := e.notes ++ [n] } s'
  | r => r

/-- Say, on a failure of `p`, what was being read. -/
def label (what : String) (p : Scan α) : Scan α := note (.label what) p

/-- Say, on a failure of `p`, what would have been accepted. -/
def expect (what : String) (p : Scan α) : Scan α := note (.expected what) p

/-- `p`, or `q` from the same place when `p` fails without committing; a
failure of `q` is the one reported. -/
def orElse (p q : Scan α) : Scan α := fun s =>
  match p s with
  | .error e s' => if e.committed then .error e s' else q s
  | r => r

/-- `p`, or `none` having read nothing when `p` fails without committing. -/
def optional (p : Scan α) : Scan (Option α) := fun s =>
  match p s with
  | .ok a s' => .ok (some a) s'
  | .error e s' => if e.committed then .error e s' else .ok none s

/-- The value of `p`, having read nothing. -/
def lookahead (p : Scan α) : Scan α := fun s =>
  match p s with
  | .ok a _ => .ok a s
  | .error e _ => .error e s

/-- `p`, then a check of its value. A refused value fails where `p` began,
committed if `committed` holds, with the refusal's cause if it gives one. -/
def checked (committed : Bool) (p : Scan α) (f : α → Except (Option String) β) : Scan β := fun s =>
  match p s with
  | .ok a s' =>
    match f a with
    | .ok b => .ok b s'
    | .error cause => .error { committed, cause } s
  | .error e s' => .error e s'

/-- `p`, then a check of its value that may refuse it with a cause; the
failure is not committed. -/
def check (p : Scan α) (f : α → Except String β) : Scan β :=
  checked false p fun a => (f a).mapError some

/-- `p`, kept only when `f` gives a value for it. -/
def refine (p : Scan α) (f : α → Option β) : Scan β :=
  checked false p fun a => match f a with
    | some b => .ok b
    | none => .error none

/-- `p`, with the offsets where it began and ended. -/
def spanned (p : Scan α) : Scan (α × Nat × Nat) := fun s =>
  match p s with
  | .ok a s' => .ok (a, s.pos, s'.pos) s'
  | .error e s' => .error e s'

/-- `p`, with the characters it read. -/
def recognize (p : Scan α) : Scan (List Char) := fun s =>
  match p s with
  | .ok _ s' => .ok (s.rest.take (s.rest.length - s'.rest.length)) s'
  | .error e s' => .error e s'

/-- `p`, its value dropped. -/
def skip (p : Scan α) : Scan Unit := fun s =>
  match p s with
  | .ok _ s' => .ok () s'
  | .error e s' => .error e s'

/-! ## Repetition -/

/-- `p` as long as it reads something, at most `fuel` times; it stops, having
read nothing of that attempt, at a failure that is not committed. -/
def manyUpTo (p : Scan α) : Nat → List α → Scan (List α)
  | 0, acc => pure acc.reverse
  | fuel + 1, acc => fun s =>
    match p s with
    | .ok a s' =>
      if s'.rest.length < s.rest.length then manyUpTo p fuel (a :: acc) s'
      else .ok (a :: acc).reverse s'
    | .error e s' => if e.committed then .error e s' else .ok acc.reverse s

/-- `p` as often as it succeeds, possibly never. Each success reads a
character at least, so the text bounds the repetitions. -/
def many (p : Scan α) : Scan (List α) := fun s => manyUpTo p (s.rest.length + 1) [] s

/-- `p` at least once, then as often as it succeeds. -/
def many1 (p : Scan α) : Scan (List α) := do
  let a ← p
  let rest ← many p
  return a :: rest

/-- One `p` or more, separated by `sep`. A separator not followed by `p`
is left unread. -/
def sepBy1 (p : Scan α) (sep : Scan Unit) : Scan (List α) := do
  let a ← p
  let rest ← many (do sep; p)
  return a :: rest

/-- `p`s separated by `sep`, possibly none. -/
def sepBy (p : Scan α) (sep : Scan Unit) : Scan (List α) := do
  return (← optional (sepBy1 p sep)).getD []

/-- Read `text` from the byte offset `start` with `p`: the value, or the
failure with the text where it stopped. -/
def run (p : Scan α) (text : List Char) (start : Nat) : Except (Failure × Input) α :=
  match p { rest := text, pos := start } with
  | .ok a _ => .ok a
  | .error e s => .error (e, s)

end Scan

end TaskConsole
