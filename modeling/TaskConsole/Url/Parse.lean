import TaskConsole.Url.Basic

/-! Reading URLs as web browsers do: `Url.parse` reads a URL, `Url.join` a reference
relative to a base. -/

namespace TaskConsole.Url

/-- The text with controls and spaces trimmed from both ends and tabs and line
breaks removed. -/
def prepare (s : String) : List Char :=
  let blank (c : Char) : Bool := c.toNat ≤ 0x20
  let cs := ((s.toList.dropWhile blank).reverse.dropWhile blank).reverse
  cs.filter fun c => c != '\t' && c != '\n' && c != '\r'

/-- The rest of a scheme after its first letter, up to its colon. -/
def schemeRest : List Char → List Char → Option (String × List Char)
  | _, [] => none
  | acc, ':' :: rest => some (String.ofList acc.reverse, rest)
  | acc, c :: rest =>
    if c.isAlphanum || c == '+' || c == '-' || c == '.' then schemeRest (c.toLower :: acc) rest
    else none

/-- The scheme at the front of a text, lower-cased, and the text after its
colon. -/
def schemePrefix : List Char → Option (String × List Char)
  | c :: rest => if c.isAlpha then schemeRest [c.toLower] rest else none
  | [] => none

/-! ## Paths -/

/-- Whether a text is a Windows drive letter: a letter and `:` or `|`. -/
def isDriveLetter : List Char → Bool
  | [a, b] => a.isAlpha && (b == ':' || b == '|')
  | _ => false

/-- Whether a text is a normalized Windows drive letter: a letter and `:`. -/
def isNormalizedDriveLetter : List Char → Bool
  | [a, ':'] => a.isAlpha
  | _ => false

/-- Whether a text starts with a drive letter that ends its segment. -/
def startsWithDriveLetter : List Char → Bool
  | a :: b :: rest =>
    a.isAlpha && (b == ':' || b == '|') &&
      (match rest with
       | [] => true
       | c :: _ => c == '/' || c == '\\' || c == '?' || c == '#')
  | _ => false

/-- Whether a path piece starts with a delimiter and a drive letter. -/
def pathStartsWithDriveLetter : List Char → Bool
  | c :: rest => (c == '/' || c == '\\' || c == '?' || c == '#') && startsWithDriveLetter rest
  | [] => false

/-- The position of the last `c` in a text. -/
def lastIndexOf (c : Char) (cs : List Char) : Option Nat :=
  (cs.zipIdx.filter (·.1 == c)).getLast?.map (·.2)

/-- Whether a segment is `..`, plainly or percent-encoded. -/
def isDoubleDot (seg : List Char) : Bool :=
  let s := String.ofList (seg.map Char.toLower)
  s == ".." || s == ".%2e" || s == "%2e." || s == "%2e%2e"

/-- Whether a segment is `.`, plainly or percent-encoded. -/
def isSingleDot (seg : List Char) : Bool :=
  let s := String.ofList (seg.map Char.toLower)
  s == "." || s == "%2e"

/-- Whether the slash ending a path may be removed before a `..`: a slash
stands before it, and not one before a drive letter. -/
def lastSlashCanBeRemoved (path : List Char) : Bool :=
  match lastIndexOf '/' path.dropLast with
  | some i => !pathStartsWithDriveLetter (path.drop i)
  | none => false

/-- The path without its last segment, keeping the slash before it; a drive
letter of a file path stays. -/
def popPath (kind : SchemeKind) (path : List Char) : List Char :=
  match lastIndexOf '/' path with
  | some i =>
    if kind == .file && isNormalizedDriveLetter (path.drop (i + 1)) then path
    else path.take (i + 1)
  | none => path

/-- The path without its last segment, unless it is empty or a file path of a
drive letter alone. -/
def shortenPath (kind : SchemeKind) (path : List Char) : List Char :=
  if path.isEmpty then path
  else if kind == .file && isNormalizedDriveLetter (path.drop 1) then path
  else popPath kind path

/-- Read the characters of one segment onto the path: up to a slash (which is
written), or up to `?`, `#` or the end (which are not read). Gives the path,
where the segment starts in it, whether a slash ended it, and the rest. -/
def readSegment (kind : SchemeKind) :
    List Char → List Char → Nat → List Char × Nat × Bool × List Char
  | [], path, start => (path, start, false, [])
  | c :: rest, path, start =>
    if c == '/' || (c == '\\' && kind.isSpecial) then (path ++ ['/'], start, true, rest)
    else if c == '?' || c == '#' then (path, start, false, c :: rest)
    else
      let (path, start) :=
        if kind == .file && !path.isEmpty && isNormalizedDriveLetter (path.drop 1) then
          (path ++ ['/'], start + 1)
        else (path, start)
      readSegment kind rest (path ++ encodeChar pathSet c) start

/-- Read segments onto a path until `?`, `#` or the end. Gives the path,
whether a file URL keeps its host (a drive letter first removes it), and the
rest of the input. -/
def pathSegments (kind : SchemeKind) :
    Nat → List Char → Bool → List Char → List Char × Bool × List Char
  | 0, path, hasHost, input => (path, hasHost, input)
  | fuel + 1, path, hasHost, input =>
    let (full, start, slash, rest) := readSegment kind input path path.length
    let before := full.take start
    let seg := if slash then (full.drop start).dropLast else full.drop start
    let (path, hasHost) :=
      if isDoubleDot seg then
        let p := if before.getLast? == some '/' && lastSlashCanBeRemoved before then
          before.dropLast else before
        let p := shortenPath kind p
        (if slash && p.getLast? != some '/' then p ++ ['/'] else p, hasHost)
      else if isSingleDot seg then
        (if before.getLast? != some '/' then before ++ ['/'] else before, hasHost)
      else if kind == .file && start == 1 && isDriveLetter seg then
        (before ++ seg.take 1 ++ [':'] ++ (if slash then ['/'] else []), false)
      else (full, hasHost)
    if slash then pathSegments kind fuel path hasHost rest else (path, hasHost, rest)

/-- Read a path onto `path`; a file path keeps a single leading slash. -/
def parsePath (kind : SchemeKind) (path : List Char) (hasHost : Bool) (input : List Char) :
    List Char × Bool × List Char :=
  let (p, h, rest) := pathSegments kind (input.length + 1) path hasHost input
  let p := if kind == .file then '/' :: p.dropWhile (· == '/') else p
  (p, h, rest)

/-- Read the path after an authority. `afterSlash` says whether what is
written before the path ends with a slash. -/
def parsePathStart (kind : SchemeKind) (afterSlash hasHost : Bool) (input : List Char) :
    List Char × Bool × List Char :=
  if kind.isSpecial then
    if afterSlash then parsePath kind [] hasHost input
    else match input with
      | c :: rest => if c == '/' || c == '\\' then parsePath kind ['/'] hasHost rest
        else parsePath kind ['/'] hasHost input
      | [] => parsePath kind ['/'] hasHost input
  else match input with
    | [] => parsePath kind [] hasHost input
    | c :: _ =>
      if c == '?' || c == '#' then ([], hasHost, input)
      else parsePath kind (if c != '/' then ['/'] else []) hasHost input

/-- The opaque path of a URL that cannot be a base, up to `?` or `#`. -/
def opaquePath (input : List Char) : List Char × List Char :=
  let (p, rest) := input.span fun c => c != '?' && c != '#'
  (encode controls p, rest)

/-- The query and fragment at the front of the rest of a URL. -/
def queryAndFragment (kind : SchemeKind) (input : List Char) : Option String × Option String :=
  let fragment (cs : List Char) : Option String := some (String.ofList (encode fragmentSet cs))
  match input with
  | '?' :: rest =>
    let (q, f) := rest.span (· != '#')
    let set := if kind.isSpecial then specialQuerySet else querySet
    (some (String.ofList (encode set q)), match f with
      | _ :: f => fragment f
      | [] => none)
  | '#' :: rest => (none, fragment rest)
  | _ => (none, none)

/-! ## Authorities -/

/-- Whether a character ends an authority. -/
def endsAuthority (kind : SchemeKind) (c : Char) : Bool :=
  c == '/' || c == '?' || c == '#' || (c == '\\' && kind.isSpecial)

/-- The user information before the last `@` of the authority, and the rest. -/
def splitUserinfo (kind : SchemeKind) (input : List Char) :
    Except ParseError (Option (List Char) × List Char) :=
  let region := input.takeWhile (!endsAuthority kind ·)
  match lastIndexOf '@' region with
  | none => .ok (none, input)
  | some 0 =>
    match input.drop 1 with
    | c :: _ => if endsAuthority kind c then .error .emptyHost else .ok (none, input.drop 1)
    | [] => .ok (none, [])
  | some i => .ok (some (input.take i), input.drop (i + 1))

/-- The user name and password of the user information, percent-encoded. -/
def userinfoParts (info : List Char) : String × String :=
  let (name, rest) := info.span (· != ':')
  (String.ofList (encode userinfoSet name), String.ofList (encode userinfoSet (rest.drop 1)))

/-- The host text and the rest: up to a colon outside brackets or the end of
the authority. -/
def hostRegion (kind : SchemeKind) : Bool → List Char → List Char × List Char
  | _, [] => ([], [])
  | inside, c :: rest =>
    if (c == ':' && !inside) || endsAuthority kind c then ([], c :: rest)
    else
      let inside := if c == '[' then true else if c == ']' then false else inside
      let (h, r) := hostRegion kind inside rest
      (c :: h, r)

/-- The decimal port after a colon, up to the end of the authority. -/
def portDigits : List Char → Nat → Bool → Except ParseError (Option Nat × List Char)
  | [], n, any => .ok (if any then some n else none, [])
  | c :: rest, n, any =>
    if c.isDigit then
      let n := n * 10 + (c.toNat - 48)
      if n > 65535 then .error .invalidPort else portDigits rest n true
    else if c == '/' || c == '\\' || c == '?' || c == '#' then
      .ok (if any then some n else none, c :: rest)
    else .error .invalidPort

/-- The port of a URL with `scheme`, none when it is the default. -/
def parsePort (scheme : String) (input : List Char) : Except ParseError (Option Nat × List Char) := do
  let (port, rest) ← portDigits input 0 false
  return (if port == defaultPort scheme then none else port, rest)

/-- A URL of `scheme` from what follows its `//`: authority, path, query and
fragment. -/
def afterDoubleSlash (scheme : String) (input : List Char) : Except ParseError Url := do
  let kind := schemeKind scheme
  let (info, rest) ← splitUserinfo kind input
  let (username, password) := match info with
    | some i => userinfoParts i
    | none => ("", "")
  let (hostChars, rest) := hostRegion kind false rest
  if kind == .special && hostChars.isEmpty then throw .emptyHost
  let host ← if kind.isSpecial then parseHost hostChars else parseOpaqueHost hostChars
  if host.isEmpty && (rest.head? == some ':' || kind.isSpecial) then throw .emptyHost
  let (port, rest) ← match rest with
    | ':' :: r => parsePort scheme r
    | _ => pure (none, rest)
  if host.isEmpty && !(username.isEmpty && password.isEmpty) then throw .emptyHost
  let authority : Authority := { username, password, host, port }
  let (path, _, rest) := parsePathStart kind authority.text.isEmpty true rest
  let (query, fragment) := queryAndFragment kind rest
  return { scheme, authority := some authority, path := String.ofList path, query, fragment }

/-! ## Whole URLs -/

/-- The URL of another scheme from what follows its colon. -/
def parseOther (scheme : String) (input : List Char) : Except ParseError Url :=
  match input with
  | '/' :: '/' :: rest => afterDoubleSlash scheme rest
  | '/' :: rest =>
    let (path, _, rest) := parsePath .other ['/'] false rest
    let (query, fragment) := queryAndFragment .other rest
    .ok { scheme, path := String.ofList path, query, fragment }
  | _ =>
    let (path, rest) := opaquePath input
    let (query, fragment) := queryAndFragment .other rest
    .ok { scheme, path := String.ofList path, query, fragment }

/-- The base with a new fragment. -/
def withFragment (base : Url) (rest : List Char) : Url :=
  { base with fragment := some (String.ofList (encode fragmentSet rest)) }

/-- The number of slashes and backslashes at the front. -/
def leadingSlashes (input : List Char) : Nat :=
  (input.takeWhile fun c => c == '/' || c == '\\').length

/-- The host and rest of a file URL after `//`: a drive letter is no host. -/
def fileHost (input : List Char) : Except ParseError (Host × List Char) := do
  let region := input.takeWhile fun c => c != '/' && c != '\\' && c != '?' && c != '#'
  if isDriveLetter region then return (.domain "", input)
  let rest := input.drop region.length
  if region.isEmpty then return (.domain "", rest)
  match ← parseHost region with
  | .domain "localhost" => return (.domain "", rest)
  | h => return (h, rest)

/-- A file URL from what follows its colon, relative to a file base if any. -/
def parseFile (input : List Char) (base : Option Url) : Except ParseError Url := do
  let finish (authority : Authority) (path : List Char) (rest : List Char) : Url :=
    let (query, fragment) := queryAndFragment .file rest
    { scheme := "file", authority := some authority, path := String.ofList path, query, fragment }
  match input with
  | c :: rest1 =>
    if c == '/' || c == '\\' then
      match rest1 with
      | d :: rest2 =>
        if d == '/' || d == '\\' then
          let (host, rest) ← fileHost rest2
          let hasHost := !host.isEmpty
          let (path, kept, rest) :=
            if hasHost then parsePathStart .file false true rest else parsePath .file ['/'] false rest
          return finish { host := if kept then host else .domain "" } path rest
        else fileSingleSlash input rest1
      | [] => fileSingleSlash input rest1
    else fileRelative input
  | [] => fileRelative input
where
  fileSingleSlash (input rest1 : List Char) : Except ParseError Url :=
    let (lead, host) := match base with
      | some b =>
        if startsWithDriveLetter rest1 then ([], Host.domain "")
        else
          let first := (b.path.toList.drop 1).takeWhile (· != '/')
          if isNormalizedDriveLetter first then ('/' :: first, Host.domain "")
          else ([], (b.authority.map (·.host)).getD (.domain ""))
      | none => ([], .domain "")
    let (path, _, rest) := parsePath .file lead false input
    let (query, fragment) := queryAndFragment .file rest
    .ok { scheme := "file", authority := some { host }, path := String.ofList path, query, fragment }
  fileRelative (input : List Char) : Except ParseError Url :=
    let fresh : Url :=
      let (path, _, rest) := parsePath .file ['/'] false input
      let (query, fragment) := queryAndFragment .file rest
      { scheme := "file", authority := some {}, path := String.ofList path, query, fragment }
    match base with
    | none => .ok fresh
    | some b =>
      match input with
      | [] => .ok { b with fragment := none }
      | '?' :: _ =>
        let (query, fragment) := queryAndFragment .file input
        .ok { b with query, fragment }
      | '#' :: rest => .ok (withFragment b rest)
      | _ =>
        if startsWithDriveLetter input then .ok fresh
        else
          let (path, _, rest) := parsePath .file (shortenPath .file b.path.toList) true input
          let (query, fragment) := queryAndFragment .file rest
          .ok { b with path := String.ofList path, query, fragment }

/-- A reference without a scheme, relative to a base that can be one. -/
def parseRelative (input : List Char) (base : Url) : Except ParseError Url :=
  let kind := base.kind
  match input with
  | [] => .ok { base with fragment := none }
  | '?' :: _ =>
    let (query, fragment) := queryAndFragment kind input
    .ok { base with query, fragment }
  | '#' :: rest => .ok (withFragment base rest)
  | c :: rest =>
    if c == '/' || c == '\\' then
      if leadingSlashes input ≥ 2 then
        match input with
        | '/' :: '/' :: r => afterDoubleSlash base.scheme r
        | _ => afterDoubleSlash base.scheme (input.drop (leadingSlashes input))
      else
        let (path, _, rest) := parsePath kind ['/'] true rest
        let (query, fragment) := queryAndFragment kind rest
        .ok { base with path := String.ofList path, query, fragment }
    else
      let p := popPath kind base.path.toList
      let p := if p.isEmpty then ['/'] else p
      let (path, _, rest) := parsePath kind p true input
      let (query, fragment) := queryAndFragment kind rest
      .ok { base with path := String.ofList path, query, fragment }

/-- A URL from the text after its scheme's colon. -/
def parseWithScheme (scheme : String) (input : List Char) (base : Option Url) :
    Except ParseError Url :=
  match schemeKind scheme with
  | .file => parseFile input (base.filter (·.scheme == "file"))
  | .special =>
    let slashes := leadingSlashes input
    match base with
    | some b =>
      if slashes < 2 && b.scheme == scheme then parseRelative input b
      else afterDoubleSlash scheme (input.drop slashes)
    | none => afterDoubleSlash scheme (input.drop slashes)
  | .other => parseOther scheme input

/-- A URL read from text, relative to `base` if one is given. -/
def parseWith (base : Option Url) (s : String) : Except ParseError Url :=
  let input := prepare s
  match schemePrefix input with
  | some (scheme, rest) => parseWithScheme scheme rest base
  | none =>
    match base with
    | none => .error .relativeWithoutBase
    | some b =>
      match input with
      | '#' :: rest => .ok (withFragment b rest)
      | _ =>
        if b.cannotBeABase then .error .relativeWithCannotBeABaseBase
        else if b.kind == .file then parseFile input (some b)
        else parseRelative input b

/-- A URL read from text. -/
def parse (s : String) : Except ParseError Url := parseWith none s

/-- A reference read relative to the URL `base`. -/
def join (base : Url) (s : String) : Except ParseError Url := parseWith (some base) s

end TaskConsole.Url
