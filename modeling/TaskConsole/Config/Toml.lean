import TaskConsole.Decimal.Nearest

/-! TOML documents as trees of tables that remember where each key and value was
written; a table is defined once, and `Error.render` points a caret at the span. -/

namespace TaskConsole.Toml

/-- A range of byte offsets in the document. -/
structure Span where
  start : Nat
  stop : Nat
  deriving DecidableEq, Repr

/-- A key as written: its name and where it stands. -/
structure Key where
  name : String
  span : Span
  deriving Repr

/-- A value that is not a collection. -/
inductive Scalar where
  | string (s : String)
  | integer (n : Int)
  | float (f : Float)
  | boolean (b : Bool)
  | datetime (text : String)
  deriving Repr

/-- How a table came to be: the document root, a header, a table named on
the way to a header, one made by dotted keys, or an inline table value. -/
inductive TableKind where
  | root
  | header
  | implicit
  | dotted
  | inline
  deriving DecidableEq, Repr

/-- A node of the document: a scalar, an array, a table of keyed entries, or
an array of tables. -/
inductive Node where
  | scalar (v : Scalar) (span : Span)
  | array (items : List Node) (span : Span)
  | table (kind : TableKind) (entries : List (Key × Node)) (span : Option Span)
  | tables (items : List Node)
  deriving Repr

/-- A TOML error: its message, the span it is about, and the keys leading to
the value it is about. -/
structure Error where
  message : String
  span : Option Span := none
  keys : List String := []
  deriving Repr

/-- The name of a node's type, as errors about extending it give it. -/
def Node.typeName : Node → String
  | .scalar (.string _) _ => "string"
  | .scalar (.integer _) _ => "integer"
  | .scalar (.float _) _ => "float"
  | .scalar (.boolean _) _ => "boolean"
  | .scalar (.datetime _) _ => "datetime"
  | .array _ _ => "array"
  | .table .inline _ _ => "inline table"
  | .table _ _ _ => "table"
  | .tables _ => "array of tables"

/-- The span of a table, if it has one. -/
def Node.tableSpan? : Node → Option Span
  | .table _ _ s => s
  | _ => none

/-- The span of a node, if it has one: an array of tables spans from its
first table to its last. -/
def Node.span? : Node → Option Span
  | .scalar _ s => some s
  | .array _ s => some s
  | .table _ _ s => s
  | .tables items =>
    match (items.head?.bind Node.tableSpan?), (items.getLast?.bind Node.tableSpan?) with
    | some first, some last => some ⟨first.start, last.stop⟩
    | _, _ => none

/-! ## Rendering errors -/

/-- The line and the column (in characters, or in bytes where the line is cut
inside a character) of a byte offset. -/
def locate (doc : List UInt8) (index : Nat) : Nat × Nat :=
  if doc.isEmpty then (0, index) else
  let safe := min index (doc.length - 1)
  let extra := index - safe
  let before := doc.take safe
  let lineStart := match (before.zipIdx.filter (·.1 == 10)).getLast? with
    | some (_, i) => i + 1
    | none => 0
  let line := (doc.take lineStart).count 10
  let piece := (doc.drop lineStart).take (safe + 1 - lineStart)
  let column := match String.fromUTF8? (ByteArray.mk piece.toArray) with
    | some s => s.length - 1
    | none => safe - lineStart
  (line, column + extra)

/-- `n` copies of a character. -/
def repeatChar (c : Char) (n : Nat) : String := String.ofList (List.replicate n c)

/-- An error as written, with the line it points into when it has a span. -/
def Error.render (e : Error) (doc : String) : String :=
  match e.span with
  | some span =>
    let bytes := doc.toUTF8.toList
    let (line, column) := locate bytes span.start
    let lineNo := toString (line + 1)
    let gutter := lineNo.length
    let content := ((doc.splitOn "\n").drop line).headD ""
    let width := min (span.stop - span.start) (content.utf8ByteSize - column)
    "TOML parse error at line " ++ lineNo ++ ", column " ++ toString (column + 1) ++ "\n" ++
      repeatChar ' ' (gutter + 1) ++ "|\n" ++
      lineNo ++ " | " ++ content ++ "\n" ++
      repeatChar ' ' (gutter + 1) ++ "|" ++ repeatChar ' ' (column + 1) ++
      repeatChar '^' (max width 1) ++ "\n" ++ e.message ++ "\n"
  | none =>
    e.message ++ "\n" ++ (if e.keys.isEmpty then "" else "in `" ++ ".".intercalate e.keys ++ "`\n")

/-! ## Building tables -/

/-- The entry of a name in a table. -/
def find? (es : List (Key × Node)) (name : String) : Option Node :=
  (es.find? (·.1.name == name)).map (·.2)

/-- The table with the entry of `k` replaced, or added at the end. -/
def setEntry (es : List (Key × Node)) (k : Key) (n : Node) : List (Key × Node) :=
  if es.any (·.1.name == k.name) then es.map fun e => if e.1.name == k.name then (e.1, n) else e
  else es ++ [(k, n)]

/-- The table without the entry of a name. -/
def removeEntry (es : List (Key × Node)) (name : String) : List (Key × Node) :=
  es.filter (·.1.name != name)

/-- A dotted path as written in errors. -/
def pathText (ks : List Key) : String := ".".intercalate (ks.map (·.name))

/-- A duplicate key error; `table` is the path of the table it is in, when
known. -/
def duplicateKey (key : String) (table : Option (List Key)) : Error :=
  { message := match table with
      | some [] => "duplicate key `" ++ key ++ "` in document root"
      | some t => "duplicate key `" ++ key ++ "` in table `" ++ pathText t ++ "`"
      | none => "duplicate key `" ++ key ++ "`" }

/-- Go down `path` from a table, creating missing tables (dotted ones for a
dotted key), and apply `k` to the table reached. `full` and `i` place the
path in the whole key, for errors. -/
def descend {α : Type} (dotted : Bool) (full : List Key)
    (k : TableKind → List (Key × Node) → Except Error (List (Key × Node) × α)) :
    Nat → List Key → TableKind → List (Key × Node) → Except Error (List (Key × Node) × α)
  | _, [], kind, es => k kind es
  | i, key :: rest, _, es => do
    match find? es key.name with
    | none =>
      let kind := if dotted then TableKind.dotted else .implicit
      let (sub, a) ← descend dotted full k (i + 1) rest kind []
      return (setEntry es key (.table kind sub none), a)
    | some (.tables items) =>
      match items.getLast? with
      | some (.table kind sub sp) =>
        let (sub, a) ← descend dotted full k (i + 1) rest kind sub
        return (setEntry es key (.tables (items.dropLast ++ [.table kind sub sp])), a)
      | _ => throw (duplicateKey key.name none)
    | some (.table kind sub sp) =>
      if kind == .inline then
        throw { message := "dotted key `" ++ pathText (full.take (i + 1)) ++
          "` attempted to extend non-table type (inline table)" }
      else if dotted && !(kind == .implicit || kind == .dotted) then
        throw (duplicateKey key.name none)
      else
        let (sub, a) ← descend dotted full k (i + 1) rest kind sub
        return (setEntry es key (.table kind sub sp), a)
    | some n =>
      throw { message := "dotted key `" ++ pathText (full.take (i + 1)) ++
        "` attempted to extend non-table type (" ++ n.typeName ++ ")" }

/-- The document being built: the root entries, and the table of the current
header with its path, span and whether it is an element of an array of
tables. -/
structure Builder where
  root : List (Key × Node) := []
  current : List (Key × Node) := []
  currentKind : TableKind := .root
  path : List Key := []
  span : Option Span := none
  isArray : Bool := false

/-- Add `key = value` (the key's dotted prefix `prefix` included) to the current
table. -/
def Builder.keyval (b : Builder) (lead : List Key) (key : Key) (value : Node) :
    Except Error Builder := do
  let span := match b.span, value.span? with
    | some s, some v => some { s with stop := v.stop }
    | s, _ => s
  let (current, ()) ← descend true (lead ++ [key]) (fun kind es => do
      if (kind == .dotted) != !lead.isEmpty then throw (duplicateKey key.name none)
      if (find? es key.name).isSome then throw (duplicateKey key.name (some b.path))
      return (es ++ [(key, value)], ())) 0 lead b.currentKind b.current
  return { b with current, span }

/-- The path without its last key, and the last key. -/
def splitLast (path : List Key) : List Key × Option Key := (path.dropLast, path.getLast?)

/-- Put the current table into the root. -/
def Builder.finish (b : Builder) : Except Error Builder := do
  match splitLast b.path with
  | (_, none) => return { b with root := b.current, current := [] }
  | (parent, some key) =>
    let table := Node.table .header b.current b.span
    let (root, ()) ← descend false b.path (fun _ es => do
        match find? es key.name with
        | none =>
          if b.isArray then return (es ++ [(key, .tables [table])], ())
          else return (es ++ [(key, table)], ())
        | some (.tables items) =>
          if b.isArray then return (setEntry es key (.tables (items ++ [table])), ())
          else throw (duplicateKey key.name (some parent))
        | some _ => throw (duplicateKey key.name (some parent))) 0 parent .root b.root
    return { b with root, current := [] }

/-- Start the table of a header, `[path]` or `[[path]]`, spanning `span`. -/
def Builder.header (b : Builder) (path : List Key) (span : Span) (isArray : Bool) :
    Except Error Builder := do
  let b ← b.finish
  match splitLast path with
  | (_, none) => return b
  | (parent, some key) =>
    let (root, reused) ← descend false path (fun _ es => do
        match find? es key.name with
        | none => return (es, [])
        | some (.table .implicit sub _) =>
          if isArray then throw (duplicateKey key.name (some parent))
          else return (removeEntry es key.name, sub)
        | some (.tables _) =>
          if isArray then return (es, []) else throw (duplicateKey key.name (some parent))
        | some _ => throw (duplicateKey key.name (some parent))) 0 parent .root b.root
    return { root, current := reused, currentKind := .header, path, span := some span, isArray }

/-- The document root, once every line is read. -/
def Builder.document (b : Builder) : Except Error (List (Key × Node)) := do
  return (← b.finish).root

end TaskConsole.Toml
