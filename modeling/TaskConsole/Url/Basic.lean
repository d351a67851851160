import TaskConsole.Url.Host

/-! URLs as their parts, each kept as written, and `Url.text`, which writes the whole
URL. -/

namespace TaskConsole.Url

/-- How a scheme is treated: the special schemes with hosts, `file`, or any
other. -/
inductive SchemeKind where
  | special
  | file
  | other
  deriving DecidableEq, Repr

/-- The kind of a (lower-case) scheme. -/
def schemeKind (scheme : String) : SchemeKind :=
  if ["http", "https", "ws", "wss", "ftp"].contains scheme then .special
  else if scheme == "file" then .file
  else .other

/-- Whether a kind is special: every kind but `other`. -/
def SchemeKind.isSpecial : SchemeKind → Bool
  | .other => false
  | _ => true

/-- The port a scheme uses when none is given. -/
def defaultPort (scheme : String) : Option Nat :=
  if scheme == "http" ∨ scheme == "ws" then some 80
  else if scheme == "https" ∨ scheme == "wss" then some 443
  else if scheme == "ftp" then some 21
  else none

/-- The authority of a URL: user name and password (percent-encoded, possibly
empty), host and port. -/
structure Authority where
  username : String := ""
  password : String := ""
  host : Host := .domain ""
  port : Option Nat := none
  deriving DecidableEq, Repr

/-- The authority as written after `//`. -/
def Authority.text (a : Authority) : String :=
  let userinfo :=
    if a.username.isEmpty ∧ a.password.isEmpty then ""
    else a.username ++ (if a.password.isEmpty then "" else ":" ++ a.password) ++ "@"
  let port := match a.port with
    | some p => ":" ++ toString p
    | none => ""
  userinfo ++ a.host.text ++ port

end TaskConsole.Url

namespace TaskConsole

/-- A parsed URL. -/
structure Url where
  scheme : String
  authority : Option Url.Authority := none
  path : String := ""
  query : Option String := none
  fragment : Option String := none
  deriving DecidableEq, Repr

namespace Url

/-- The kind of the URL's scheme. -/
def kind (u : Url) : SchemeKind := schemeKind u.scheme

/-- Whether the URL has an opaque path and so cannot be a base. -/
def cannotBeABase (u : Url) : Bool :=
  u.authority.isNone && !u.path.startsWith "/"

/-- The URL as written. -/
def text (u : Url) : String :=
  let authority := match u.authority with
    | some a => "//" ++ a.text
    | none => if u.path.startsWith "//" then "/." else ""
  u.scheme ++ ":" ++ authority ++ u.path ++
    (match u.query with | some q => "?" ++ q | none => "") ++
    (match u.fragment with | some f => "#" ++ f | none => "")

end Url

end TaskConsole
