import TaskConsole.Log.Line
import TaskConsole.Log.Level
import TaskConsole.Text.Escape

/-! Drawing a log line from its text: its escape sequences, the level's colour, or
plain text. -/

namespace TaskConsole

namespace LogLine

/-- The level the line announces. -/
def level (l : LogLine) : LogLevel := LogLevel.detect l.text

/-- Whether the text carries escape characters. -/
def hasEscapes (l : LogLine) : Bool := l.text.toList.contains '\x1b'

/-- The line as drawn, with or without level colours. -/
def render (l : LogLine) (levelColors : Bool) : StyledText :=
  if l.hasEscapes then Escape.toStyled l.text
  else
    match l.level.color with
    | some c => if levelColors then StyledText.single l.text { fg := some c } else StyledText.raw l.text
    | none => StyledText.raw l.text

end LogLine

end TaskConsole
