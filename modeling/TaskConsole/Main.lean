import TaskConsole.Launch

/-! The command line: settings, log file and service address, stopping with status 1
on a failure chain or 2 on a usage error, and at the terminal it cannot drive. -/

open TaskConsole

/-- The environment variables the program reads. -/
def watchedVariables : List String :=
  ["TASKDECK_API_URL", "TASKDECK_PAGE_SIZE", "TASKDECK_RECONNECT_DELAY_MS", "TASKDECK_DOWNLOAD_DIR",
   "TASKDECK_MAX_DISPLAY_LINES", "HOME", "XDG_CONFIG_HOME", "XDG_CACHE_HOME", "TMPDIR"]

/-- An error number, which may come negated. -/
def errorNumber (code : UInt32) : Nat :=
  if code.toNat < Nat.pow 2 31 then code.toNat else Nat.pow 2 32 - code.toNat

/-- The system's description of an error number. -/
def osErrorText (code : UInt32) : String :=
  let n := errorNumber code
  let what := match n with
    | 1 => "Operation not permitted" | 2 => "No such file or directory"
    | 5 => "Input/output error" | 6 => "No such device or address"
    | 13 => "Permission denied" | 17 => "File exists" | 20 => "Not a directory"
    | 21 => "Is a directory" | 28 => "No space left on device" | 30 => "Read-only file system"
    | 36 => "File name too long" | 40 => "Too many levels of symbolic links"
    | n => "Unknown error " ++ toString n
  what ++ " (os error " ++ toString n ++ ")"

/-- The text of a failed file operation. -/
def ioErrorText : IO.Error → String
  | .noFileOrDirectory _ code _ => osErrorText code
  | .permissionDenied _ code _ => osErrorText code
  | .inappropriateType _ code _ => osErrorText code
  | .alreadyExists _ code _ => osErrorText code
  | .invalidArgument _ code _ => osErrorText code
  | .resourceExhausted _ code _ => osErrorText code
  | .otherError code _ => osErrorText code
  | e => toString e

/-- Whether a failed read means that the file is not there. -/
def isMissing : IO.Error → Bool
  | .noFileOrDirectory .. => true
  | .inappropriateType _ code _ => errorNumber code == 20
  | _ => false

/-- The settings file's text, `none` if it is not there. -/
def readSettingsFile (path : String) (optional : Bool) : IO (Except (List String) (Option String)) := do
  try
    pure (.ok (some (← IO.FS.readFile path)))
  catch e =>
    if optional && isMissing e then pure (.ok none)
    else pure (.error ["reading config file " ++ path, ioErrorText e])

/-- The settings from the file and the environment, before the command line. -/
def loadSettings (o : Launch.Options) (lookup : String → Option String) :
    IO (Except (List String) Settings) := do
  let file ← match o.config with
    | some p => pure (some p, ← readSettingsFile p false)
    | none => match Launch.defaultSettingsPath lookup with
      | some p => pure (some p, ← readSettingsFile p true)
      | none => pure (none, .ok none)
  match file with
  | (_, .error chain) => pure (.error chain)
  | (some p, .ok (some text)) => pure ((Launch.settingsOfFile p text).map (·.applyEnv lookup))
  | (_, .ok _) => pure (.ok (({} : Settings).applyEnv lookup))

/-- Create the log file's directory and open the file for appending. -/
def openLog (path : String) : IO (Option (List String)) := do
  if let some dir := Launch.parentDir path then
    try IO.FS.createDirAll dir
    catch e => return some ["Failed to create log directory " ++ dir, ioErrorText e]
  try
    let _ ← IO.FS.Handle.mk path .append
    pure none
  catch e => pure (some ["Failed to open log file " ++ path, ioErrorText e])

/-- Print a failure chain and stop with status 1. -/
def stop (chain : List String) : IO UInt32 := do
  IO.eprint (Launch.chainText chain)
  pure 1

def main (args : List String) : IO UInt32 := do
  let mut env : List (String × String) := []
  for name in watchedVariables do
    if let some v ← IO.getEnv name then env := (name, v) :: env
  let lookup (name : String) : Option String := (env.find? (·.1 == name)).map (·.2)
  match Launch.Options.read args lookup with
  | .error .help => IO.print Launch.helpText; pure 0
  | .error .version => IO.print Launch.versionText; pure 0
  | .error (.usage msg) => IO.eprint msg; pure 2
  | .ok o =>
    match ← loadSettings o lookup with
    | .error chain => stop chain
    | .ok s =>
      let s := o.apply s
      if let some chain := Launch.settingsProblem s then return ← stop chain
      if let some chain ← openLog (Launch.logPath s lookup) then return ← stop chain
      if let some chain := Launch.serviceProblem s then return ← stop chain
      if ← (← IO.getStdin).isTty then stop ["the interactive screen is not available"]
      else stop [osErrorText 6]
