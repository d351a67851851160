import TaskConsole.Text.Upper
import TaskConsole.Text.Styled

/-! The level a log line announces, read off its text regardless of case; the most
severe wins, and each level but `none` has a colour. -/

namespace TaskConsole

/-- The severity a log line announces. -/
inductive LogLevel where
  | error | warn | info | debug | trace | none
  deriving DecidableEq, Repr

namespace LogLevel

/-- The words that announce each level, most severe level first. -/
def markers : List (LogLevel × List String) :=
  [(.error, ["ERROR", "[E]", "ERR]"]),
   (.warn, ["WARN", "[W]", "WRN]"]),
   (.info, ["INFO", "[I]", "INF]"]),
   (.debug, ["DEBUG", "[D]", "DBG]"]),
   (.trace, ["TRACE", "[T]", "TRC]"])]

/-- The most severe level whose marker occurs in the text, ignoring case. -/
def detect (text : String) : LogLevel :=
  let upper := Text.upperLatinText text
  match markers.find? (fun (_, words) => words.any (Text.containsChars upper ·.toList)) with
  | some (level, _) => level
  | Option.none => .none

/-- The colour a line of this level is painted in. -/
def color : LogLevel → Option Color
  | .error => some .red
  | .warn => some .yellow
  | .info => some .green
  | .debug => some .blue
  | .trace => some .darkGray
  | .none => Option.none

/-- The name of a level. -/
def name : LogLevel → String
  | .error => "Error" | .warn => "Warn" | .info => "Info" | .debug => "Debug"
  | .trace => "Trace" | .none => "None"

end LogLevel

end TaskConsole
