import TaskConsole.Text.Blank
import TaskConsole.Input.Range

/-! Names of downloaded files: the last path component of the first `filename`
parameter of a `Content-Disposition` header, so the service never picks a directory. -/

namespace TaskConsole.Download

/-- The pieces of a text between the occurrences of `c`, as `str::split` cuts it. -/
def pieces (s : String) (c : Char) : List String :=
  (s.toList.splitOn c).map String.ofList

/-- The last component of a path, if it is a name: components are separated by
slashes, empty and `.` components are skipped, and `..` is no name. -/
def lastComponent (path : String) : Option String :=
  match ((pieces path '/').filter (fun p => p != "" && p != ".")).getLast? with
  | some ".." => none
  | some p => some p
  | none => none

/-- The text without the characters `drop` accepts at either end. -/
def trimBy (drop : Char → Bool) (s : String) : String :=
  String.ofList ((s.toList.dropWhile drop).reverse.dropWhile drop).reverse

/-- The name a header part proposes, if it proposes one. -/
def proposal (part : String) : Option String := do
  let (key, value) ← Input.splitOnce part '='
  if (Text.trim key).startsWith "filename" then
    let value := Text.trim value
    let value := if value.startsWith "UTF-8''" then (value.drop 7).toString else value
    some (trimBy (fun c => c == '"' || c == '\'') value)
  else none

/-- The file name a `Content-Disposition` header proposes. -/
def fileName (header : String) : Option String :=
  ((pieces header ';').map Text.trim).findSome? fun part =>
    (proposal part).bind lastComponent |>.filter (!·.isEmpty)

end TaskConsole.Download
