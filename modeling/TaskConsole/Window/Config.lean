import TaskConsole.Json.OfValue

/-! The settings of a log window and `WindowConfig.check`, which accepts those the
window can run with. -/

namespace TaskConsole

/-- Settings of a log window; sizes count lines, distances count scroll units. -/
structure WindowConfig where
  /-- Lines kept from a tail read, and the first prefetch size. -/
  initialBatch : Nat := 100
  /-- Cap of the doubling prefetch size. -/
  maxBatch : Nat := 500
  /-- Prefetch once the scroll position is within this fraction of the
  viewport height from the top. -/
  prefetchFraction : Float := 0.4
  /-- Splice a staged prefetch in once this close to the top. -/
  commitDistance : Nat := 6
  /-- Follow new lines on a flush when this close to the bottom. -/
  followThreshold : Nat := 3
  /-- Buffered streamed lines that force a flush. -/
  flushThreshold : Nat := 50
  /-- Lines materialised before the farthest are dropped. -/
  maxDisplayLines : Nat := 1000
  /-- Height of one line in scroll units. -/
  lineHeight : Nat := 1
  deriving Repr, Inhabited

namespace WindowConfig

/-- The first rule a configuration breaks, as a message; `none` if it breaks none. -/
def check (c : WindowConfig) : Option String :=
  if c.initialBatch == 0 then
    some "viewport.initial_batch must be at least 1"
  else if c.maxBatch < c.initialBatch then
    some "viewport.max_batch must not be smaller than viewport.initial_batch"
  else if !(c.prefetchFraction > 0.0 && c.prefetchFraction ≤ 1.0) then
    some "viewport.prefetch_fraction must be in (0, 1]"
  else if c.flushThreshold == 0 || c.maxDisplayLines == 0 || c.lineHeight == 0 then
    some "viewport.flush_threshold, max_display_lines and line_height must be positive"
  else none

/-- The names of the settings, in their order. -/
def fieldNames : List String :=
  ["initial_batch", "max_batch", "prefetch_fraction", "commit_distance",
   "follow_threshold", "flush_threshold", "max_display_lines", "line_height"]

/-- The decoder of the setting named `k`. -/
def field : String → Option (Json.Value → Json.Decoded (WindowConfig → WindowConfig))
  | "initial_batch" => some fun v => do
      let n ← v.toUsize; pure fun c => { c with initialBatch := n }
  | "max_batch" => some fun v => do
      let n ← v.toUsize; pure fun c => { c with maxBatch := n }
  | "prefetch_fraction" => some fun v => do
      let f ← v.toFloat; pure fun c => { c with prefetchFraction := f }
  | "commit_distance" => some fun v => do
      let n ← v.toUsize; pure fun c => { c with commitDistance := n }
  | "follow_threshold" => some fun v => do
      let n ← v.toUsize; pure fun c => { c with followThreshold := n }
  | "flush_threshold" => some fun v => do
      let n ← v.toUsize; pure fun c => { c with flushThreshold := n }
  | "max_display_lines" => some fun v => do
      let n ← v.toUsize; pure fun c => { c with maxDisplayLines := n }
  | "line_height" => some fun v => do
      let n ← v.toUsize; pure fun c => { c with lineHeight := n }
  | _ => none

/-- Apply the settings given positionally, in field order; absent ones keep
their defaults. -/
def ofItems : List String → List Json.Value → WindowConfig → Json.Decoded WindowConfig
  | name :: names, v :: vs, c => do
    match field name with
    | some decode =>
      let update ← decode v
      ofItems names vs (update c)
    | none => ofItems names vs c
  | _, _, c => .ok c

/-- Settings from a JSON value: an object of any of the settings (others are
refused), or an array of them in field order. Absent settings take their
defaults. -/
def ofJson : Json.Value → Json.Decoded WindowConfig
  | .object members => Json.Value.members field (some fieldNames) members [] {}
  | .array items => do
    let c ← ofItems fieldNames items {}
    if items.length > fieldNames.length then
      .error (.invalidLength items.length "fewer elements in array")
    else .ok c
  | v => .error (.invalidType v.unexpected "struct ViewportConfig")

end WindowConfig

end TaskConsole
