import TaskConsole.Config.TomlText
import TaskConsole.Window.Config
import TaskConsole.Url.Parse
import TaskConsole.Input.Range
import TaskConsole.Decimal.Shortest
import TaskConsole.Text.Quote

/-! The program's settings, read from a TOML document of optional keys, overridden by
the `TASKDECK_*` environment variables, and accepted by `Settings.check`. -/

namespace TaskConsole

open Toml

/-- The program's settings. -/
structure Settings where
  apiBaseUrl : String := "http://localhost:8888/api/v1"
  pageSize : Nat := 10
  reconnectDelayMs : Nat := 5000
  downloadDir : Option String := none
  logFile : Option String := none
  logLevel : String := "info"
  viewport : WindowConfig := {}
  deriving Repr, Inhabited

namespace Settings

/-- A double as a type error shows it: with a decimal point when finite. -/
def floatShown (f : Float) : String :=
  let s := Decimal.showFloat f
  if f.isFinite && !s.toList.contains '.' then s ++ ".0" else s

/-- What a type error calls a node. -/
def describe : Node → String
  | .scalar (.string s) _ => "string " ++ Text.quote s
  | .scalar (.integer n) _ => "integer `" ++ toString n ++ "`"
  | .scalar (.float f) _ => "floating point `" ++ floatShown f ++ "`"
  | .scalar (.boolean b) _ => "boolean `" ++ toString b ++ "`"
  | .scalar (.datetime _) _ => "map"
  | .array _ _ => "sequence"
  | .table _ _ _ => "map"
  | .tables _ => "sequence"

/-- A node of the wrong type for `expected`. -/
def invalidType {α : Type} (n : Node) (expected : String) : Except Error α :=
  .error { message := "invalid type: " ++ describe n ++ ", expected " ++ expected }

/-- A non-negative integer; `expected` names the target type. -/
def toUnsigned (expected : String) : Node → Except Error Nat
  | .scalar (.integer n) _ =>
    if n < 0 then .error { message := "invalid value: integer `" ++ toString n ++ "`, expected " ++ expected }
    else .ok n.toNat
  | n => invalidType n expected

/-- A double; integers become the nearest double. -/
def toDouble : Node → Except Error Float
  | .scalar (.integer n) _ =>
    .ok (if n < 0 then -(Decimal.nearestFloat n.natAbs 0) else Decimal.nearestFloat n.toNat 0)
  | .scalar (.float f) _ => .ok f
  | n => invalidType n "f64"

/-- A string; `expected` names the target type. -/
def toText (expected : String) : Node → Except Error String
  | .scalar (.string s) _ => .ok s
  | n => invalidType n expected

/-- An error from a member's value, placed at the value (at its key when
the value has no span of its own) and under its key. -/
def under {α : Type} (k : Key) (n : Node) (r : Except Error α) : Except Error α :=
  match r with
  | .ok a => .ok a
  | .error e => .error { e with span := e.span <|> n.span? <|> some k.span, keys := k.name :: e.keys }

/-- An unknown member. -/
def unknown {α : Type} (k : Key) (fields : List String) : Except Error α :=
  .error { message := "unknown field `" ++ k.name ++ "`, expected " ++ Json.Error.oneOf fields,
           span := some k.span }

/-- The decoder of the window setting named `k`. -/
def windowField : String → Option (Node → Except Error (WindowConfig → WindowConfig))
  | "initial_batch" => some fun n => do
      let v ← toUnsigned "usize" n; pure fun c => { c with initialBatch := v }
  | "max_batch" => some fun n => do
      let v ← toUnsigned "usize" n; pure fun c => { c with maxBatch := v }
  | "prefetch_fraction" => some fun n => do
      let v ← toDouble n; pure fun c => { c with prefetchFraction := v }
  | "commit_distance" => some fun n => do
      let v ← toUnsigned "usize" n; pure fun c => { c with commitDistance := v }
  | "follow_threshold" => some fun n => do
      let v ← toUnsigned "usize" n; pure fun c => { c with followThreshold := v }
  | "flush_threshold" => some fun n => do
      let v ← toUnsigned "usize" n; pure fun c => { c with flushThreshold := v }
  | "max_display_lines" => some fun n => do
      let v ← toUnsigned "usize" n; pure fun c => { c with maxDisplayLines := v }
  | "line_height" => some fun n => do
      let v ← toUnsigned "usize" n; pure fun c => { c with lineHeight := v }
  | _ => none

/-- Apply a table's entries with `field`, refusing unknown ones. -/
def applyEntries {β : Type} (field : String → Option (Node → Except Error (β → β)))
    (fields : List String) : List (Key × Node) → β → Except Error β
  | [], acc => .ok acc
  | (k, n) :: rest, acc =>
    match field k.name with
    | some decode => do
      let update ← under k n (decode n)
      applyEntries field fields rest (update acc)
    | none => unknown k fields

/-- Apply array elements to the fields in order; the rest keep their values. -/
def applyItems {β : Type} (field : String → Option (Node → Except Error (β → β))) :
    List String → List Node → β → Except Error β
  | name :: names, n :: ns, acc =>
    match field name with
    | some decode => do
      let update ← match decode n with
        | .ok u => pure u
        | .error e => throw { e with span := e.span <|> n.span? }
      applyItems field names ns (update acc)
    | none => applyItems field names ns acc
  | _, _, acc => .ok acc

/-- Window settings from a table, or an array of them in order. -/
def toWindow : Node → Except Error WindowConfig
  | .table _ es _ => applyEntries windowField WindowConfig.fieldNames es {}
  | .array items _ => applyItems windowField WindowConfig.fieldNames items {}
  | .tables items => applyItems windowField WindowConfig.fieldNames items {}
  | n => invalidType n "struct ViewportConfig"

/-- The names of the settings, in their order. -/
def fieldNames : List String :=
  ["api_base_url", "page_size", "reconnect_delay_ms", "download_dir", "log_file", "log_level",
   "viewport"]

/-- The decoder of the setting named `k`. -/
def field : String → Option (Node → Except Error (Settings → Settings))
  | "api_base_url" => some fun n => do
      let v ← toText "a string" n; pure fun s => { s with apiBaseUrl := v }
  | "page_size" => some fun n => do
      let v ← toUnsigned "usize" n; pure fun s => { s with pageSize := v }
  | "reconnect_delay_ms" => some fun n => do
      let v ← toUnsigned "u64" n; pure fun s => { s with reconnectDelayMs := v }
  | "download_dir" => some fun n => do
      let v ← toText "path string" n; pure fun s => { s with downloadDir := some v }
  | "log_file" => some fun n => do
      let v ← toText "path string" n; pure fun s => { s with logFile := some v }
  | "log_level" => some fun n => do
      let v ← toText "a string" n; pure fun s => { s with logLevel := v }
  | "viewport" => some fun n => do
      let v ← toWindow n; pure fun s => { s with viewport := v }
  | _ => none

/-- Settings from a TOML document, or its error as written. -/
def ofToml (doc : String) : Except String Settings :=
  match Toml.parse doc >>= fun root => applyEntries field fieldNames root {} with
  | .ok s => .ok s
  | .error e => .error (e.render doc)

/-- Apply the environment's overrides, `lookup` giving a variable's value. -/
def applyEnv (s : Settings) (lookup : String → Option String) : Settings :=
  let var (name : String) := lookup ("TASKDECK_" ++ name)
  let number (name : String) := (var name).bind Input.parseWord
  let s := match var "API_URL" with
    | some url => { s with apiBaseUrl := url }
    | none => s
  let s := match number "PAGE_SIZE" with
    | some n => { s with pageSize := n }
    | none => s
  let s := match number "RECONNECT_DELAY_MS" with
    | some n => { s with reconnectDelayMs := n }
    | none => s
  let s := match var "DOWNLOAD_DIR" with
    | some d => { s with downloadDir := some d }
    | none => s
  match number "MAX_DISPLAY_LINES" with
  | some n => { s with viewport := { s.viewport with maxDisplayLines := n } }
  | none => s

/-- The first rule the settings break, as a message; `none` if they break
none. -/
def check (s : Settings) : Option String :=
  if s.pageSize == 0 then some "page_size must be at least 1"
  else if s.pageSize > 100 then some "page_size must not exceed 100 (the server caps list requests)"
  else match Url.parse s.apiBaseUrl with
    | .error e => some ("invalid api_base_url '" ++ s.apiBaseUrl ++ "': " ++ e.message)
    | .ok _ => s.viewport.check

end Settings

end TaskConsole
