/-! Styled text: lines of spans, each with a style; styles compose by `patch`, the
later one winning where it sets something. -/

namespace TaskConsole

/-- A terminal colour: a named one, an entry of the 256-colour palette, or a
true colour. `reset` is the terminal's default. -/
inductive Color where
  | reset | black | red | green | yellow | blue | magenta | cyan | gray
  | darkGray | lightRed | lightGreen | lightYellow | lightBlue | lightMagenta | lightCyan
  | white
  | rgb (r g b : Nat)
  | indexed (n : Nat)
  deriving DecidableEq, Repr

/-- The name of a colour. -/
def Color.name : Color → String
  | .reset => "Reset" | .black => "Black" | .red => "Red" | .green => "Green"
  | .yellow => "Yellow" | .blue => "Blue" | .magenta => "Magenta" | .cyan => "Cyan"
  | .gray => "Gray" | .darkGray => "DarkGray" | .lightRed => "LightRed"
  | .lightGreen => "LightGreen" | .lightYellow => "LightYellow" | .lightBlue => "LightBlue"
  | .lightMagenta => "LightMagenta" | .lightCyan => "LightCyan" | .white => "White"
  | .rgb r g b => "Rgb(" ++ toString r ++ ", " ++ toString g ++ ", " ++ toString b ++ ")"
  | .indexed n => "Indexed(" ++ toString n ++ ")"

/-- A text modifier, in their fixed order. -/
inductive Modifier where
  | bold | dim | italic | underlined | slowBlink | rapidBlink | reversed | hidden | crossedOut
  deriving DecidableEq, Repr

/-- All modifiers in their order. -/
def Modifier.all : List Modifier :=
  [.bold, .dim, .italic, .underlined, .slowBlink, .rapidBlink, .reversed, .hidden, .crossedOut]

/-- The name of a modifier. -/
def Modifier.name : Modifier → String
  | .bold => "BOLD" | .dim => "DIM" | .italic => "ITALIC" | .underlined => "UNDERLINED"
  | .slowBlink => "SLOW_BLINK" | .rapidBlink => "RAPID_BLINK" | .reversed => "REVERSED"
  | .hidden => "HIDDEN" | .crossedOut => "CROSSED_OUT"

/-- A set of modifiers, kept in their fixed order. -/
structure Modifiers where
  items : List Modifier := []
  deriving DecidableEq, Repr

namespace Modifiers

/-- The set of the given modifiers. -/
def ofList (ms : List Modifier) : Modifiers := ⟨Modifier.all.filter (ms.contains ·)⟩

/-- Whether the set is empty. -/
def isEmpty (m : Modifiers) : Bool := m.items.isEmpty

/-- Both sets together. -/
def union (a b : Modifiers) : Modifiers := ofList (a.items ++ b.items)

/-- The first set without the second. -/
def diff (a b : Modifiers) : Modifiers := ⟨a.items.filter (!b.items.contains ·)⟩

end Modifiers

/-- A style: colours it sets, modifiers it adds and modifiers it removes. -/
structure Style where
  fg : Option Color := none
  bg : Option Color := none
  underlineColor : Option Color := none
  add : Modifiers := {}
  sub : Modifiers := {}
  deriving DecidableEq, Repr

namespace Style

/-- The style that returns everything to the terminal's defaults. -/
def reset : Style :=
  { fg := some .reset, bg := some .reset, underlineColor := some .reset,
    sub := Modifiers.ofList Modifier.all }

/-- `s` followed by `t`: `t`'s colours where it sets them, and its modifiers
overriding `s`'s. -/
def patch (s t : Style) : Style :=
  { fg := t.fg <|> s.fg
    bg := t.bg <|> s.bg
    underlineColor := t.underlineColor <|> s.underlineColor
    add := (s.add.diff t.sub).union t.add
    sub := (s.sub.diff t.add).union t.sub }

/-- Set the foreground colour. -/
def withFg (s : Style) (c : Color) : Style := { s with fg := some c }

/-- Set the background colour. -/
def withBg (s : Style) (c : Color) : Style := { s with bg := some c }

/-- Add a modifier. -/
def addModifier (s : Style) (m : Modifier) : Style :=
  { s with add := s.add.union (Modifiers.ofList [m]), sub := s.sub.diff (Modifiers.ofList [m]) }

/-- Remove a modifier. -/
def removeModifier (s : Style) (m : Modifier) : Style :=
  { s with add := s.add.diff (Modifiers.ofList [m]), sub := s.sub.union (Modifiers.ofList [m]) }

end Style

/-- A piece of text in one style. -/
structure Span where
  content : String
  style : Style := {}
  deriving DecidableEq, Repr

/-- One line of styled text. -/
structure StyledLine where
  spans : List Span := []
  style : Style := {}
  deriving DecidableEq, Repr

/-- Styled text: lines of spans. -/
structure StyledText where
  lines : List StyledLine := []
  style : Style := {}
  deriving DecidableEq, Repr

namespace StyledText

/-- The lines of a text, as the lines of a log print: split at line feeds, a
carriage return before a line feed dropped, no line after a final line feed. -/
def splitLines (s : String) : List String :=
  let pieces := s.splitOn "\n"
  let dropCr (p : String) : String :=
    if p.endsWith "\r" then String.ofList p.toList.dropLast else p
  match pieces.reverse with
  | [] => []
  | last :: before =>
    let body := before.reverse.map dropCr
    if last.isEmpty then body else body ++ [last]

/-- Unstyled text, one line per line of `s`; a line holds one span, or none if
it is empty. The empty text is one empty line. -/
def raw (s : String) : StyledText :=
  let line (l : String) : StyledLine := { spans := if l.isEmpty then [] else [⟨l, {}⟩] }
  if s.isEmpty then { lines := [{}] }
  else { lines := (splitLines s).map line }

/-- One line of one span: the whole of `s` in one style. -/
def single (s : String) (style : Style) : StyledText :=
  { lines := [{ spans := [⟨s, style⟩] }] }

end StyledText

end TaskConsole
