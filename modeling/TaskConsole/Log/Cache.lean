import TaskConsole.Log.Render

/-! Log lines that keep their last drawing with the colour setting it was made for;
a drawing kept for the other setting is dropped and made afresh. -/

namespace TaskConsole

/-- A log line as the window keeps it, with its last drawing. -/
structure CachedLine where
  number : Nat
  text : String
  level : LogLevel
  hasAnsi : Bool
  /-- The last drawing, with whether level colours were on for it. -/
  rendered : Option (Bool × StyledText) := none

namespace CachedLine

/-- A line as made from a number and a text: level and escape flag read off the
text, nothing drawn yet. -/
def new (number : Nat) (text : String) : CachedLine :=
  { number, text, level := LogLevel.detect text, hasAnsi := text.toList.contains '\x1b' }

/-- The line drawn from its kept level and escape flag. -/
def draw (l : CachedLine) (levelColors : Bool) : StyledText :=
  if l.hasAnsi then Escape.toStyled l.text
  else
    match l.level.color.filter (fun _ => levelColors) with
    | some c => StyledText.single l.text { fg := some c }
    | none => StyledText.raw l.text

/-- The drawing for a colour setting, and the line that keeps it. -/
def getRendered (l : CachedLine) (levelColors : Bool) : StyledText × CachedLine :=
  -- a drawing kept for the other setting is dropped, then the kept one is
  -- taken or a new one made
  let kept := l.rendered.filter (·.1 == levelColors)
  let entry := kept.getD (levelColors, l.draw levelColors)
  (entry.2, { l with rendered := some entry })

end CachedLine

end TaskConsole
