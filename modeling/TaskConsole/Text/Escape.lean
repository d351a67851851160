import TaskConsole.Text.Styled

/-! Terminal escape sequences: `Escape.toStyled` reads select graphic rendition
sequences into styled text, skipping any other escape. -/

namespace TaskConsole.Escape

/-- The escape character. -/
def esc : Char := '\x1b'

/-- The value of a list of decimal digits. -/
def digitsValue (ds : List Char) : Nat :=
  ds.foldl (fun n d => n * 10 + (d.toNat - '0'.toNat)) 0

/-- A number below 256 at the front: at least one digit. -/
def byte (cs : List Char) : Option (Nat × List Char) :=
  let ds := cs.takeWhile Char.isDigit
  if ds.isEmpty then none
  else
    let v := digitsValue ds
    if v < 256 then some (v, cs.drop ds.length) else none

/-- A signed 64-bit number at the front: an optional sign and at least one digit. -/
def signed (cs : List Char) : Option (Int × List Char) :=
  let (negative, body) := match cs with
    | '-' :: r => (true, r)
    | '+' :: r => (false, r)
    | r => (false, r)
  let ds := body.takeWhile Char.isDigit
  if ds.isEmpty then none
  else
    let v := digitsValue ds
    let rest := body.drop ds.length
    if negative then (if v ≤ Nat.pow 2 63 then some (-(v : Int), rest) else none)
    else if v < Nat.pow 2 63 then some (v, rest) else none

/-- The text after `c` if it starts with `c`. -/
def expect (c : Char) : List Char → Option (List Char)
  | d :: r => if d = c then some r else none
  | [] => none

/-- The text without a leading `c`, if it has one. -/
def skip (c : Char) : List Char → List Char
  | d :: r => if d = c then r else d :: r
  | [] => []

/-- A colour after 38 or 48: `5;n` or `2;r;g;b`. -/
def colorSpec (cs : List Char) : Option (Color × List Char) := do
  let (kind, cs) ← signed cs
  let cs ← expect ';' cs
  let cs := skip ';' cs
  if kind = 2 then
    let (r, cs) ← byte cs
    let cs ← expect ';' cs
    let (g, cs) ← byte cs
    let cs ← expect ';' cs
    let (b, cs) ← byte cs
    pure (.rgb r g b, cs)
  else if kind = 5 then
    let (n, cs) ← byte cs
    pure (.indexed n, cs)
  else none

/-- One item of a sequence: a code, its colour for 38 and 48, and an optional
semicolon. -/
def item (cs : List Char) : Option ((Nat × Option Color) × List Char) := do
  let (code, cs) ← byte cs
  if code = 38 ∨ code = 48 then
    let (color, cs) ← colorSpec (skip ';' cs)
    pure ((code, some color), skip ';' cs)
  else pure ((code, none), skip ';' cs)

/-- The items of a sequence, as many as read; the text after the last. `fuel`
bounds the items, each of which takes at least one character. -/
def items : Nat → List Char → List (Nat × Option Color) × List Char
  | 0, cs => ([], cs)
  | fuel + 1, cs =>
    match item cs with
    | some (it, rest) =>
      let (more, rest) := items fuel rest
      (it :: more, rest)
    | none => ([], cs)

/-- A whole sequence at the front: `ESC [`, items, `m`. -/
def sequence (cs : List Char) : Option (List (Nat × Option Color) × List Char) :=
  match cs with
  | '\x1b' :: '[' :: rest =>
    let (its, rest) := items rest.length rest
    match rest with
    | 'm' :: r => some (its, r)
    | _ => none
  | _ => none

/-- Skip any escape at the front: `ESC [` up to and with a letter, `ESC ]` up to
and with a bell, or the escape character alone. -/
def skipEscape (cs : List Char) : Option (List Char) :=
  match cs with
  | '\x1b' :: '[' :: rest => some ((rest.dropWhile (fun c => !c.isAlpha)).drop 1)
  | '\x1b' :: ']' :: rest => some ((rest.dropWhile (· != '\x07')).drop 1)
  | '\x1b' :: rest => some rest
  | _ => none

/-- The colour of codes 30 to 37 and 40 to 47, by their last digit. -/
def baseColor : Nat → Color
  | 0 => .black | 1 => .red | 2 => .green | 3 => .yellow | 4 => .blue
  | 5 => .magenta | 6 => .cyan | _ => .gray

/-- The colour of codes 90 to 97 and 100 to 107, by their last digit. -/
def brightColor : Nat → Color
  | 0 => .darkGray | 1 => .lightRed | 2 => .lightGreen | 3 => .lightYellow | 4 => .lightBlue
  | 5 => .lightMagenta | 6 => .lightCyan | _ => .white

/-- The modifier of codes 1 to 9. -/
def modifierOf : Nat → Modifier
  | 1 => .bold | 2 => .dim | 3 => .italic | 4 => .underlined | 5 => .slowBlink
  | 6 => .rapidBlink | 7 => .reversed | 8 => .hidden | _ => .crossedOut

/-- Apply one item of a sequence to a style. -/
def applyItem (s : Style) : Nat × Option Color → Style
  | (code, color) =>
    if code = 0 then Style.reset
    else if code ≤ 9 then s.addModifier (modifierOf code)
    else if code = 22 then (s.removeModifier .bold).removeModifier .dim
    else if 30 ≤ code ∧ code ≤ 37 then s.withFg (baseColor (code - 30))
    else if code = 38 then (match color with | some c => s.withFg c | none => s)
    else if code = 39 then s.withFg .reset
    else if 40 ≤ code ∧ code ≤ 47 then s.withBg (baseColor (code - 40))
    else if code = 48 then (match color with | some c => s.withBg c | none => s)
    else if code = 49 then s.withBg .reset
    else if 90 ≤ code ∧ code ≤ 97 then s.withFg (brightColor (code - 90))
    else if 100 ≤ code ∧ code ≤ 106 then s.withBg (brightColor (code - 100))
    else if code = 107 then s.withFg .white
    else s

/-- The style a sequence sets, from the current one; an empty sequence resets. -/
def styleOf (current : Style) (its : List (Nat × Option Color)) : Style :=
  if its.isEmpty then Style.reset else its.foldl applyItem current

/-- One span: an optional escape, then the text up to the next escape. -/
def span (current : Style) (cs : List Char) : Span × List Char :=
  let (style?, cs) := match sequence cs with
    | some (its, rest) => (some (styleOf current its), rest)
    | none => (none, (skipEscape cs).getD cs)
  let text := cs.takeWhile (· != esc)
  let rest := cs.dropWhile (· != esc)
  let style := match style? with
    | some s => current.patch s
    | none => current
  (⟨String.ofList text, style⟩, rest)

/-- The spans of one line, and the style after it. `fuel` bounds the spans. -/
def spans : Nat → Style → List Char → List Span × Style
  | 0, s, _ => ([], s)
  | fuel + 1, s, cs =>
    let (sp, rest) := span s cs
    let s := s.patch sp.style
    let keep := if sp.content.isEmpty then [] else [sp]
    if rest.isEmpty then (keep, s)
    else
      let (more, s) := spans fuel s rest
      (keep ++ more, s)

/-- The text of the first line and the text after its line feed. -/
def splitLine (cs : List Char) : List Char × List Char :=
  (cs.takeWhile (· != '\n'), (cs.dropWhile (· != '\n')).drop 1)

/-- The lines of a text, carrying the style across lines. `fuel` bounds them. -/
def lines : Nat → Style → List Char → List StyledLine
  | 0, _, _ => []
  | fuel + 1, s, cs =>
    let (line, rest) := splitLine cs
    let (sps, s) := spans (line.length + 1) s line
    let l : StyledLine := { spans := sps }
    if rest.isEmpty then [l] else l :: lines fuel s rest

/-- A text with escape sequences, as styled text. -/
def toStyled (s : String) : StyledText :=
  let cs := s.toList
  { lines := lines (cs.length + 1) {} cs }

end TaskConsole.Escape
