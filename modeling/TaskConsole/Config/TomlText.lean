import TaskConsole.Config.Toml
import TaskConsole.Text.Scan

/-! The grammar behind `Toml.parse`, item by item over `Text.Scan`: a syntax error
stands where reading stopped, a refused value where it began; nesting stops at 80. -/

namespace TaskConsole.Toml

open Scan

/-! ## Blanks, line ends and comments -/

/-- Spaces and tabs. -/
def isSpace (c : Char) : Bool := c == ' ' || c == '\t'

/-- Characters beyond ASCII, allowed in comments and strings. -/
def isWide (c : Char) : Bool := c.toNat ≥ 0x80

/-- Whether `c` is between `lo` and `hi`. -/
def inRange (lo hi : Nat) (c : Char) : Bool := lo ≤ c.toNat && c.toNat ≤ hi

/-- Spaces and tabs, possibly none. -/
def blanks : Scan Unit := skip (takeWhile isSpace)

/-- A line end: a line feed, alone or after a carriage return. -/
def newline : Scan Unit := orElse (char '\n') (do char '\r'; char '\n')

/-- Whether a character may stand in a comment. -/
def commentChar (c : Char) : Bool := c == '\t' || inRange 0x20 0x7E c || isWide c

/-- A comment, from its `#` up to the end of its line. -/
def comment : Scan Unit := do char '#'; skip (takeWhile commentChar)

/-- The end of a line or of the text. -/
def lineEnding : Scan Unit := orElse newline eof

/-- What may follow a value or a header on its line: blanks, a comment, the
line's end. -/
def lineTrailing : Scan Unit := expect "`#`" (expect "newline" (do
  blanks; skip (optional comment); lineEnding))

/-- Blanks and line ends, possibly none. -/
def blankLines : Scan Unit := skip (many (orElse newline (skip (takeWhile1 isSpace))))

/-- Blanks, line ends and comments between the elements of an array: a
comment must end its line. -/
def commentLines : Nat → Scan Unit
  | 0 => pure ()
  | fuel + 1 => do
    blanks
    match ← peek with
    | some '#' => comment; newline; commentLines fuel
    | some '\n' | some '\r' => newline; commentLines fuel
    | _ => pure ()

/-- Blanks, line ends and comments, as many as there are. -/
def spaceInArray : Scan Unit := fun s => commentLines (s.rest.length + 1) s

/-! ## Strings -/

/-- The value of a hexadecimal digit. -/
def hexValue (c : Char) : Option Nat :=
  if c.isDigit then some (c.toNat - 48)
  else if inRange 0x61 0x66 c then some (c.toNat - 87)
  else if inRange 0x41 0x46 c then some (c.toNat - 55)
  else none

/-- The value of digits in `radix`. -/
def digitsValue (radix : Nat) (ds : List Char) : Nat :=
  ds.foldl (fun acc d => acc * radix + ((hexValue d).getD 0)) 0

/-- Exactly `n` hexadecimal digits, naming a character. -/
def hexEscape (n : Nat) : Scan Char :=
  check (refine (takeBetween 0 n fun c => (hexValue c).isSome)
      fun ds => if ds.length == n then some (digitsValue 16 ds) else none)
    fun v => if v < 0xD800 ∨ (0xDFFF < v ∧ v < 0x110000) then .ok (Char.ofNat v)
      else .error "value is out of range"

/-- What an escape that is none of the known ones reports. -/
def unknownEscape : Scan Char :=
  ["`b`", "`f`", "`n`", "`r`", "`t`", "`u`", "`U`", "`\\`", "`\"`"].foldl (fun p w => expect w p)
    (label "escape sequence" (commit failure))

/-- The character an escape stands for, after its backslash. -/
def escapeCode : Scan Char := do
  match ← any with
  | 'b' => return '\x08'
  | 'f' => return '\x0c'
  | 'n' => return '\n'
  | 'r' => return '\r'
  | 't' => return '\t'
  | '\\' => return '\\'
  | '"' => return '"'
  | 'u' => label "unicode 4-digit hex code" (commit (hexEscape 4))
  | 'U' => label "unicode 8-digit hex code" (commit (hexEscape 8))
  | _ => unknownEscape

/-- An escape: a backslash and its code. -/
def escaped : Scan Char := do char '\\'; escapeCode

/-- Whether a character stands for itself in a basic string. -/
def basicChar (c : Char) : Bool :=
  isSpace c || c == '!' || inRange 0x23 0x5B c || inRange 0x5D 0x7E c || isWide c

/-- A run of plain characters or one escape of a basic string. -/
def basicPiece : Scan (List Char) := orElse (takeWhile1 basicChar) (do return [← escaped])

/-- A basic string, `"…"` with escapes. -/
def basicString : Scan String := do
  char '"'
  let pieces ← many basicPiece
  label "basic string" (commit (char '"'))
  return String.ofList pieces.flatten

/-- Whether a character may stand in a literal string. -/
def literalChar (c : Char) : Bool :=
  c == '\t' || inRange 0x20 0x26 c || inRange 0x28 0x7E c || isWide c

/-- A literal string, `'…'` without escapes. -/
def literalString : Scan String := label "literal string" (do
  char '\''
  let cs ← commit (takeWhile literalChar)
  commit (char '\'')
  return String.ofList cs)

/-- One or two quotes `q` inside a multi-line string, when `after` follows
them. -/
def innerQuotes (q : Char) (after : Scan Unit) : Scan (List Char) :=
  orElse (do char q; char q; lookahead after; return [q, q])
    (do char q; lookahead after; return [q])

/-- A line-ending backslash and the blanks and line ends after it. -/
def foldedLines : Scan Unit :=
  skip (many1 (do char '\\'; blanks; newline; blankLines))

/-- A piece of a multi-line basic string: plain characters, a folded line
end, an escape or a line end. -/
def multiBasicPiece : Scan (List Char) :=
  orElse (takeWhile1 basicChar) <|
  orElse (do foldedLines; return []) <|
  orElse (do return [← escaped]) (do newline; return ['\n'])

/-- Quotes inside a multi-line basic string, each followed by more text,
added to `acc`. -/
def multiBasicQuotes : Nat → List Char → Scan (List Char)
  | 0, acc => pure acc
  | fuel + 1, acc => do
    match ← optional (innerQuotes '"' (skip (satisfy (· != '"')))) with
    | none => return acc
    | some qs =>
      match ← optional multiBasicPiece with
      | none => return acc
      | some first =>
        let more ← many multiBasicPiece
        multiBasicQuotes fuel (acc ++ qs ++ first ++ more.flatten)

/-- The body of a multi-line basic string. Up to two quotes may end it
before the closing three. -/
def multiBasicBody : Scan (List Char) := do
  let start ← many multiBasicPiece
  let body ← fun s => multiBasicQuotes (s.rest.length + 1) start.flatten s
  let last ← optional (innerQuotes '"' (word "\"\"\""))
  return body ++ last.getD []

/-- A multi-line basic string, `"""…"""`; a line end right after the
opening quotes is dropped. -/
def multiBasicString : Scan String := label "multiline basic string" (do
  word "\"\"\""
  skip (optional newline)
  let body ← commit multiBasicBody
  commit (word "\"\"\"")
  return String.ofList body)

/-- A character or line end of a multi-line literal string. -/
def multiLiteralPiece : Scan (List Char) :=
  orElse (do return [← satisfy literalChar]) (do newline; return ['\n'])

/-- The body of a multi-line literal string. Up to two quotes may end it
before the closing three. -/
def multiLiteralBody : Scan (List Char) := do
  let start ← many multiLiteralPiece
  let middle ← many (do
    let qs ← innerQuotes '\'' (skip (satisfy (· != '\'')))
    let cs ← many1 multiLiteralPiece
    return qs ++ cs.flatten)
  let last ← optional (innerQuotes '\'' (word "'''"))
  return start.flatten ++ middle.flatten ++ last.getD []

/-- A multi-line literal string, `'''…'''`; a line end right after the
opening quotes is dropped. -/
def multiLiteralString : Scan String := label "multiline literal string" (do
  word "'''"
  skip (optional newline)
  let body ← commit multiLiteralBody
  commit (word "'''")
  return String.ofList body)

/-- A string value of any of the four kinds. -/
def string : Scan String :=
  orElse multiBasicString (orElse basicString (orElse multiLiteralString literalString))

/-! ## Keys -/

/-- Whether a character may stand in a bare key. -/
def bareKeyChar (c : Char) : Bool := c.isAlphanum || c == '-' || c == '_'

/-- One part of a key: bare, or a basic or literal string. -/
def simpleKey : Scan Key := do
  let (name, start, stop) ← spanned (do
    match ← peek with
    | some '"' => basicString
    | some '\'' => literalString
    | some _ => return String.ofList (← takeWhile1 bareKeyChar)
    | none => failure)
  return ⟨name, ⟨start, stop⟩⟩

/-- The most parts a dotted key may have, and the deepest arrays and inline
tables may nest, plus one. -/
def depthLimit : Nat := 80

/-- A key, dotted or not, with blanks around its parts. A dot not followed
by a part is left unread. -/
def key : Scan (List Key) :=
  check (label "key" (sepBy1 (do blanks; let k ← simpleKey; blanks; return k) (char '.')))
    fun ks => if depthLimit ≤ ks.length then .error "recursion limit exceeded" else .ok ks

/-- The `=` between a key and its value. -/
def keyvalSep : Scan Unit := expect "`=`" (expect "`.`" (char '='))

/-! ## Numbers -/

/-- A decimal digit. -/
def digit : Scan Char := satisfy Char.isDigit

/-- Digits after a first one, single underscores between them; the digits
alone. -/
def moreDigits (isDigit : Char → Bool) : Scan (List Char) :=
  many (orElse (satisfy isDigit) (do char '_'; expect "digit" (commit (satisfy isDigit))))

/-- A sign, `+` or `-`. -/
def sign : Scan Char := satisfy fun c => c == '+' || c == '-'

/-- A decimal integer as written: whether it is negative, and its digits,
without leading zeros unless it is `0`. -/
def decInt : Scan (Bool × List Char) := label "integer" (do
  let s ← optional sign
  let ds ← orElse (do
      let d ← satisfy (inRange 0x31 0x39)
      return d :: (← moreDigits Char.isDigit))
    (do return [← digit])
  return (s == some '-', ds))

/-- An integer of 64 bits from its sign and magnitude. -/
def integerOf (negative : Bool) (n : Nat) : Except (Option String) Int :=
  if negative then
    if n ≤ Nat.pow 2 63 then .ok (-(n : Int)) else .error (some "number too small to fit in target type")
  else if n < Nat.pow 2 63 then .ok n else .error (some "number too large to fit in target type")

/-- An integer in `radix` after its prefix; `name` names it in errors. -/
def radixInt (prefixText : String) (radix : Nat) (name : String) : Scan Int :=
  let isDigit (c : Char) : Bool := (hexValue c).any fun d => d < radix
  commit (checked false
    (label name (do
      word prefixText
      commit (do let d ← satisfy isDigit; return d :: (← moreDigits isDigit))))
    fun ds => integerOf false (digitsValue radix ds))

/-- An integer: hexadecimal, octal, binary or decimal. -/
def integer : Scan Int := do
  match ← peekMany 2 with
  | ['0', 'x'] => radixInt "0x" 16 "hexadecimal integer"
  | ['0', 'o'] => radixInt "0o" 8 "octal integer"
  | ['0', 'b'] => radixInt "0b" 2 "binary integer"
  | _ => checked true decInt fun (negative, ds) => integerOf negative (digitsValue 10 ds)

/-- Digits that may start with zero, single underscores between them. -/
def zeroPrefixableInt : Scan (List Char) := do
  let d ← digit
  return d :: (← moreDigits Char.isDigit)

/-- An exponent, `e` or `E` with an optional sign and digits. -/
def exponent : Scan Int := do
  skip (satisfy fun c => c == 'e' || c == 'E')
  let s ← optional sign
  let ds ← commit zeroPrefixableInt
  let v : Int := digitsValue 10 ds
  return if s == some '-' then -v else v

/-- A fraction, `.` and digits. -/
def fraction : Scan (List Char) := do
  char '.'
  expect "digit" (commit zeroPrefixableInt)

/-- A decimal float as written: sign, integer digits, fraction digits and
exponent. -/
def floatParts : Scan (Bool × List Char × List Char × Int) := do
  let (negative, whole) ← decInt
  orElse (do return (negative, whole, [], ← exponent))
    (do
      let frac ← fraction
      let e ← optional exponent
      return (negative, whole, frac, e.getD 0))

/-- The double a decimal float stands for; one too large for a double is
refused, unless negative. -/
def floatValue : Bool × List Char × List Char × Int → Except (Option String) Float
  | (negative, whole, frac, e) =>
    let f := Decimal.nearestFloat (digitsValue 10 (whole ++ frac)) (e - frac.length)
    if !negative && f.isInf then .error none else .ok (if negative then -f else f)

/-- Infinity, `inf`. -/
def infinity : Scan Float := do word "inf"; return 1.0 / 0.0

/-- Not a number, `nan`. -/
def notANumber : Scan Float := do word "nan"; return 0.0 / 0.0

/-- `inf` or `nan` with an optional sign. -/
def specialFloat : Scan Float := do
  let s ← optional sign
  let f ← orElse infinity notANumber
  return if s == some '-' then -f else f

/-- A float: decimal, or `inf` or `nan`. -/
def float : Scan Float :=
  label "floating-point number" (orElse (checked true floatParts floatValue) specialFloat)

/-! ## Dates and times -/

/-- Exactly `n` decimal digits, as a number. -/
def fixedDigits (n : Nat) : Scan Nat := do
  return digitsValue 10 (← takeBetween n n Char.isDigit)

/-- Exactly two digits, between `lo` and `hi`. -/
def boundedDigits (lo hi : Nat) : Scan Nat :=
  check (fixedDigits 2) fun v => if lo ≤ v ∧ v ≤ hi then .ok v else .error "value is out of range"

/-- The days of a month of a year. -/
def daysInMonth (year month : Nat) : Nat :=
  let leap := year % 4 == 0 && (year % 100 != 0 || year % 400 == 0)
  if month == 2 then (if leap then 29 else 28)
  else if month == 4 || month == 6 || month == 9 || month == 11 then 30
  else 31

/-- A date, `YYYY-MM-DD`, of a day that exists. -/
def fullDate : Scan Unit := do
  let year ← fixedDigits 4
  char '-'
  let month ← commit (boundedDigits 1 12)
  commit (char '-')
  let _ ← commit (check (boundedDigits 1 31) fun day =>
    if day ≤ daysInMonth year month then .ok day else .error "value is out of range")

/-- A time, `HH:MM:SS` with an optional fraction of a second. -/
def partialTime : Scan Unit := do
  let _ ← boundedDigits 0 23
  char ':'
  commit (do
    let _ ← boundedDigits 0 59
    char ':'
    let _ ← boundedDigits 0 60
    skip (optional (do char '.'; skip (takeWhile1 Char.isDigit))))

/-- An offset from universal time: `Z`, or a sign, hours and minutes. -/
def timeOffset : Scan Unit := label "time offset" (orElse
  (skip (satisfy fun c => c == 'Z' || c == 'z'))
  (do
    skip sign
    commit (do let _ ← boundedDigits 0 23; char ':'; let _ ← boundedDigits 0 59)))

/-- A date with an optional time and offset, or a time alone. -/
def datetime : Scan Unit :=
  orElse
    (label "date-time" (do
      fullDate
      skip (optional (do
        skip (satisfy fun c => c == 'T' || c == 't' || c == ' ')
        partialTime
        skip (optional timeOffset)))))
    (label "time" partialTime)

/-! ## Values -/

/-- The notes of a value that is none of the known kinds: a string was
expected. -/
def asString {α : Type} (p : Scan α) : Scan α := expect "`'`" (expect "`\"`" (label "string" p))

/-- An array's elements, after its opening bracket. A comma may follow the
last element. -/
def arrayValues (element : Scan Node) : Scan (List Node) := do
  if (← peek) == some ']' then return []
  let items ← sepBy (do spaceInArray; let v ← element; spaceInArray; return v) (char ',')
  if !items.isEmpty then skip (optional (char ','))
  spaceInArray
  return items

/-- An array, `[…]`. -/
def array (element : Scan Node) : Scan (List Node) := do
  char '['
  let items ← commit (arrayValues element)
  expect "`]`" (label "array" (commit (char ']')))
  return items

/-- Add `key = value`, under the dotted `path`, to the entries of an inline
table; `full` is the whole path and `i` the place of the rest in it, for
errors. Tables made by dotted keys may be extended, other values not. -/
def inlineInsert (full : List Key) (key : Key) (value : Node) :
    Nat → List Key → List (Key × Node) → Except Error (List (Key × Node))
  | _, [], es =>
    if (find? es key.name).isSome then .error (duplicateKey key.name none) else .ok (es ++ [(key, value)])
  | i, k :: rest, es =>
    match find? es k.name with
    | none => do
      let sub ← inlineInsert full key value (i + 1) rest []
      return setEntry es k (.table .dotted sub none)
    | some (.table .dotted sub sp) => do
      let sub ← inlineInsert full key value (i + 1) rest sub
      return setEntry es k (.table .dotted sub sp)
    | some (.table .inline _ _) => .error (duplicateKey k.name none)
    | some n => .error { message := "dotted key `" ++ pathText (full.take (i + 1)) ++
        "` attempted to extend non-table type (" ++ n.typeName ++ ")" }

/-- Add one `key = value` pair of an inline table to its entries. -/
def inlineAdd (es : List (Key × Node)) : List Key × Node → Except (Option String) (List (Key × Node))
  | (path, v) =>
    match path.getLast? with
    | none => .ok es
    | some last =>
      match inlineInsert path.dropLast last v 0 path.dropLast es with
      | .ok es => .ok es
      | .error e => .error (some e.message)

/-- The entries of an inline table from its `key = value` pairs in order. -/
def inlineEntries (pairs : List (List Key × Node)) : Except (Option String) (List (Key × Node)) :=
  pairs.foldlM inlineAdd []

/-- A `key = value` pair of an inline table. -/
def inlineKeyval (element : Scan Node) : Scan (List Key × Node) := do
  let path ← key
  commit (do
    keyvalSep
    blanks
    let v ← element
    blanks
    return (path, v))

/-- An inline table, `{…}`: pairs separated by commas, on one line. -/
def inlineTable (element : Scan Node) : Scan (List (Key × Node)) := do
  char '{'
  let es ← commit (checked false
    (do let kvs ← sepBy (inlineKeyval element) (char ','); blanks; return kvs)
    inlineEntries)
  expect "`\x7d`" (label "inline table" (commit (char '}')))
  return es

/-- A node read by `p`, given the span it was read from. -/
def Node.placed (n : Node) (span : Span) : Node :=
  match n with
  | .scalar s _ => .scalar s span
  | .array items _ => .array items span
  | .table kind es _ => .table kind es (some span)
  | n => n

/-- A value, given the reader of the values inside its arrays and inline
tables: `none` when no more may open. -/
def valueWith (inner : Option (Scan Node)) : Scan Node := do
  let read : Scan Node := do
    match ← peek with
    | some '"' | some '\'' => return .scalar (.string (← string)) ⟨0, 0⟩
    | some '[' =>
      match inner with
      | none => refuse "recursion limit exceeded"
      | some element => return .array (← array element) ⟨0, 0⟩
    | some '{' =>
      match inner with
      | none => refuse "recursion limit exceeded"
      | some element => return .table .inline (← inlineTable element) none
    | some '_' => expect "leading digit" (do return .scalar (.integer (← integer)) ⟨0, 0⟩)
    | some '.' => expect "leading digit" (do return .scalar (.float (← float)) ⟨0, 0⟩)
    | some 't' => asString (do
        lookahead (char 't'); commit (word "true"); return .scalar (.boolean true) ⟨0, 0⟩)
    | some 'f' => asString (do
        lookahead (char 'f'); commit (word "false"); return .scalar (.boolean false) ⟨0, 0⟩)
    | some 'i' => asString (do return .scalar (.float (← infinity)) ⟨0, 0⟩)
    | some 'n' => asString (do return .scalar (.float (← notANumber)) ⟨0, 0⟩)
    | some c =>
      if c.isDigit || c == '+' || c == '-' then
        orElse (do return .scalar (.datetime (String.ofList (← recognize datetime))) ⟨0, 0⟩) <|
        orElse (do return .scalar (.float (← float)) ⟨0, 0⟩)
          (do return .scalar (.integer (← integer)) ⟨0, 0⟩)
      else asString failure
    | none => failure
  let (v, start, stop) ← spanned read
  return v.placed ⟨start, stop⟩

/-- A value; `depth` is how many more arrays and inline tables may open
inside it. -/
def value : Nat → Scan Node
  | 0 => valueWith none
  | depth + 1 => valueWith (some (value depth))

/-! ## The document -/

/-- A `key = value` line, added to the document. -/
def keyval (b : Builder) : Scan Builder :=
  checked false
    (do
      let path ← key
      commit (do
        keyvalSep
        blanks
        let v ← value (depthLimit - 1)
        lineTrailing
        return (path, v)))
    fun (path, v) => match path.getLast? with
      | none => .ok b
      | some last => (b.keyval path.dropLast last v).mapError fun e => some e.message

/-- A header, `[key]` or `[[key]]` when `isArray`, started in the document. -/
def header (b : Builder) (isArray : Bool) : Scan Builder :=
  let (opening, closing) := if isArray then ("[[", "]]") else ("[", "]")
  checked false
    (do
      let (path, start, stop) ← spanned (do
        word opening
        let path ← commit key
        expect ("`" ++ closing ++ "`") (expect "`.`" (commit (word closing)))
        return path)
      commit lineTrailing
      return (path, start, stop))
    fun (path, start, stop) => (b.header path ⟨start, stop⟩ isArray).mapError fun e => some e.message

/-- A table header. -/
def table (b : Builder) : Scan Builder := label "table header" (do
  match ← lookahead (takeBetween 2 2 fun _ => true) with
  | ['[', '['] => header b true
  | _ => header b false)

/-- A whole-line comment. -/
def commentLine : Scan Unit := do comment; lineEnding

/-- One item of the document, added to it. -/
def item (b : Builder) : Scan Builder := do
  match ← lookahead any with
  | '#' => commit commentLine; return b
  | '[' => commit (table b)
  | '\n' | '\r' => newline; return b
  | _ => commit (keyval b)

/-- The items of the document, as many as there are, each followed by
blanks. -/
def items : Nat → Builder → Scan Builder
  | 0, b => pure b
  | fuel + 1, b => fun s =>
    match (do let b ← item b; blanks; return b) s with
    | .ok b' s' => items fuel b' s'
    | .error e s' => if e.committed then .error e s' else .ok b s

/-- A document: an optional byte order mark, then items up to the end. -/
def document : Scan (List (Key × Node)) := do
  skip (optional (char '\uFEFF'))
  blanks
  let b ← fun s => items (s.rest.length + 1) {} s
  eof
  checked false (pure ()) fun () => b.document.mapError fun e => some e.message

/-- The root table of a TOML document, or the error where reading stopped. -/
def parse (doc : String) : Except Error (List (Key × Node)) :=
  match Scan.run document doc.toList 0 with
  | .ok es => .ok es
  | .error (f, s) =>
    let stop := s.pos + (s.rest.head?.map Char.utf8Size).getD 0
    .error { message := f.message, span := some ⟨s.pos, stop⟩ }

end TaskConsole.Toml
