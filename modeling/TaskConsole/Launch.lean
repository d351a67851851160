import TaskConsole.Config.Settings
import TaskConsole.Service.Endpoint

/-! What the command line and the environment decide before the console starts: long
options, settings layered from defaults, file, environment and command line. -/

namespace TaskConsole.Launch

/-- The program's name on the command line. -/
def programName : String := "taskdeck"

/-- The version it reports. -/
def versionText : String := programName ++ " 0.1.0\n"

/-- What `--help` prints. -/
def helpText : String :=
  "A keyboard-driven TUI for creating, following, and inspecting tasks on a task-execution service\n\n" ++
  "Usage: " ++ programName ++ " [OPTIONS]\n\n" ++
  "Options:\n" ++
  "      --api-url <API_URL>            [env: TASKDECK_API_URL=]\n" ++
  "      --page-size <PAGE_SIZE>\n" ++
  "      --config <CONFIG>\n" ++
  "      --download-dir <DOWNLOAD_DIR>\n" ++
  "      --log-file <LOG_FILE>\n" ++
  "      --log-level <LOG_LEVEL>\n" ++
  "      --task <TASK>\n" ++
  "  -h, --help                         Print help\n" ++
  "  -V, --version                      Print version\n"

/-- What the command line sets; `none` where it is silent. -/
structure Options where
  apiUrl : Option String := none
  pageSize : Option Nat := none
  config : Option String := none
  downloadDir : Option String := none
  logFile : Option String := none
  logLevel : Option String := none
  task : Option Nat := none
  deriving DecidableEq, Repr

/-- Why reading the command line stopped before the console. -/
inductive Stop where
  | help
  | version
  /-- A usage error, as printed. -/
  | usage (message : String)
  deriving DecidableEq, Repr

/-- A usage error with the usage line. -/
def usageError (what : String) : Stop :=
  .usage ("error: " ++ what ++ "\n\nUsage: " ++ programName ++ " [OPTIONS]\n\n" ++
    "For more information, try '--help'.\n")

/-- A usage error about a value. -/
def valueError (what : String) : Stop :=
  .usage ("error: " ++ what ++ "\n\nFor more information, try '--help'.\n")

/-- A decimal word, or why the text is not one. -/
def parseUnsigned (s : String) : Except String Nat :=
  let digits := match s.toList with
    | '+' :: rest => rest
    | cs => cs
  if s.isEmpty then .error "cannot parse integer from empty string"
  else if digits.isEmpty || !digits.all Char.isDigit then .error "invalid digit found in string"
  else
    let v := digits.foldl (fun n d => n * 10 + (d.toNat - '0'.toNat)) 0
    if v < wordBound then .ok v else .error "number too large to fit in target type"

/-- An option's value name, as usage errors show it. -/
def placeholder (long : String) : String :=
  "--" ++ long ++ " <" ++ String.map (fun c => if c == '-' then '_' else c.toUpper) long ++ ">"

/-- Set the option `long` to `v`, if it names one and is not set yet. -/
def setOption (o : Options) (long v : String) : Except Stop Options :=
  let once {α : Type} (current : Option α) (k : Options) : Except Stop Options :=
    if current.isSome then
      .error (usageError ("the argument '" ++ placeholder long ++ "' cannot be used multiple times"))
    else .ok k
  let number : Except Stop Nat := match parseUnsigned v with
    | .ok n => .ok n
    | .error why => .error (valueError ("invalid value '" ++ v ++ "' for '" ++ placeholder long ++
        "': " ++ why))
  match long with
  | "api-url" => once o.apiUrl { o with apiUrl := some v }
  | "page-size" => do
    let n ← number
    once o.pageSize { o with pageSize := some n }
  | "config" => once o.config { o with config := some v }
  | "download-dir" => once o.downloadDir { o with downloadDir := some v }
  | "log-file" => once o.logFile { o with logFile := some v }
  | "log-level" => once o.logLevel { o with logLevel := some v }
  | "task" => do
    let n ← number
    once o.task { o with task := some n }
  | _ => .error (usageError ("unexpected argument '--" ++ long ++ "' found"))

/-- Whether `long` names an option that takes a value. -/
def takesValue (long : String) : Bool :=
  ["api-url", "page-size", "config", "download-dir", "log-file", "log-level", "task"].contains long

/-- Read the arguments after the program's name. -/
def parseArgs : List String → Options → Except Stop Options
  | [], o => .ok o
  | arg :: rest, o =>
    if arg == "-h" || arg == "--help" then .error .help
    else if arg == "-V" || arg == "--version" then .error .version
    else match arg.toList with
      | '-' :: '-' :: name@(_ :: _) =>
        match name.span (· != '=') with
        | (long, '=' :: value) => do
          let o ← setOption o (String.ofList long) (String.ofList value)
          parseArgs rest o
        | (long, _) =>
          let long := String.ofList long
          if !takesValue long then .error (usageError ("unexpected argument '" ++ arg ++ "' found"))
          else match rest with
            | v :: rest' =>
              if v.startsWith "-" && v.length > 1 then
                .error (valueError ("a value is required for '" ++ placeholder long ++
                  "' but none was supplied"))
              else do
                let o ← setOption o long v
                parseArgs rest' o
            | [] => .error (valueError ("a value is required for '" ++ placeholder long ++
                "' but none was supplied"))
      | _ => .error (usageError ("unexpected argument '" ++ arg ++ "' found"))

/-- The options of a command line; the value of `TASKDECK_API_URL`, when set
and not empty, stands in for a missing `--api-url`. -/
def Options.read (args : List String) (lookup : String → Option String) : Except Stop Options := do
  let o ← parseArgs args {}
  match o.apiUrl, lookup "TASKDECK_API_URL" with
  | none, some url => if url.isEmpty then pure o else pure { o with apiUrl := some url }
  | _, _ => pure o

/-- The settings after the command line's overrides. -/
def Options.apply (o : Options) (s : Settings) : Settings :=
  { s with apiBaseUrl := o.apiUrl.getD s.apiBaseUrl, pageSize := o.pageSize.getD s.pageSize,
           downloadDir := o.downloadDir.orElse fun _ => s.downloadDir,
           logFile := o.logFile.orElse fun _ => s.logFile, logLevel := o.logLevel.getD s.logLevel }

/-- The directory an XDG variable names, else `fallback` under the home
directory. -/
def xdgDir (lookup : String → Option String) (var fallback : String) : Option String :=
  let home := ((lookup "HOME").filter (!·.isEmpty)).map (· ++ "/" ++ fallback)
  match lookup var with
  | some d => if d.startsWith "/" then some d else home
  | none => home

/-- Where the settings file is looked for when none is named. -/
def defaultSettingsPath (lookup : String → Option String) : Option String :=
  (xdgDir lookup "XDG_CONFIG_HOME" ".config").map (· ++ "/" ++ programName ++ "/config.toml")

/-- Where the log goes: the configured file, else a file in the cache
directory, else in the temporary directory. -/
def logPath (s : Settings) (lookup : String → Option String) : String :=
  match s.logFile with
  | some p => p
  | none =>
    let dir := (xdgDir lookup "XDG_CACHE_HOME" ".cache").getD ((lookup "TMPDIR").getD "/tmp")
    dir ++ "/" ++ programName ++ "/" ++ programName ++ ".log"

/-- The directory part of a path, if it has one. -/
def parentDir (path : String) : Option String :=
  let cs := path.toList
  if cs.contains '/' then
    let dir := String.ofList (cs.reverse.dropWhile (· != '/')).reverse.dropLast
    some (if dir.isEmpty then "/" else dir)
  else none

/-- The settings from a settings file's text, with the file's name in the
failure. -/
def settingsOfFile (path text : String) : Except (List String) Settings :=
  match Settings.ofToml text with
  | .ok s => .ok s
  | .error m => .error ["parsing config file " ++ path, m]

/-- The failure of settings that break a rule. -/
def settingsProblem (s : Settings) : Option (List String) :=
  if s.pageSize == 0 || s.pageSize > 100 then s.check.map ([·])
  else match Url.parse s.apiBaseUrl with
    | .error e => some ["invalid api_base_url '" ++ s.apiBaseUrl ++ "'", e.message]
    | .ok _ => s.check.map ([·])

/-- The failure of a service address that cannot serve as the base of the
service's endpoints. -/
def serviceProblem (s : Settings) : Option (List String) :=
  match serviceBase s.apiBaseUrl with
  | .ok _ => none
  | .error e => some ["invalid API URL " ++ s.apiBaseUrl, e.message]

/-- A failure chain as the program prints it when it stops: the outermost
message, then the causes, each line indented, numbered when there are
several. -/
def chainText : List String → String
  | [] => "Error: \n"
  | [m] => "Error: " ++ m ++ "\n"
  | m :: causes =>
    let indentLines (first rest : String) (text : String) : String :=
      match text.splitOn "\n" with
      | [] => first
      | l :: ls => "\n".intercalate ((first ++ l) :: ls.map fun l => if l.isEmpty then l else rest ++ l)
    let body := match causes with
      | [c] => indentLines "    " "    " c
      | _ => "\n".intercalate ((causes.zipIdx).map fun (c, i) =>
          indentLines ("    " ++ toString i ++ ": ") "       " c)
    "Error: " ++ m ++ "\n\nCaused by:\n" ++ body ++ "\n"

example : (parseArgs ["--page-size=5", "--task", "3"] {}).toOption =
    some { pageSize := some 5, task := some 3 } := by
  decide +kernel

end TaskConsole.Launch
