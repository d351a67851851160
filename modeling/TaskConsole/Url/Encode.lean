/-! Percent-encoding with the nested sets of the parts of a URL, and the errors of
reading one. -/

namespace TaskConsole.Url

/-- Why a text is not a URL, or not one relative to a base. -/
inductive ParseError where
  | emptyHost
  | idna
  | invalidPort
  | invalidIpv4
  | invalidIpv6
  | invalidDomainCharacter
  | relativeWithoutBase
  | relativeWithCannotBeABaseBase
  deriving DecidableEq, Repr

/-- The text of a URL error. -/
def ParseError.message : ParseError → String
  | .emptyHost => "empty host"
  | .idna => "invalid international domain name"
  | .invalidPort => "invalid port number"
  | .invalidIpv4 => "invalid IPv4 address"
  | .invalidIpv6 => "invalid IPv6 address"
  | .invalidDomainCharacter => "invalid domain character"
  | .relativeWithoutBase => "relative URL without a base"
  | .relativeWithCannotBeABaseBase => "relative URL with a cannot-be-a-base base"

/-- A set of ASCII characters to encode, as its test. -/
abbrev EncodeSet := Char → Bool

/-- Controls: below space, and delete. -/
def controls : EncodeSet := fun c => c.toNat < 0x20 || c.toNat == 0x7F

/-- The fragment's set. -/
def fragmentSet : EncodeSet := fun c => controls c || " \"<>`".toList.contains c

/-- The path's set. -/
def pathSet : EncodeSet := fun c => fragmentSet c || "#?{}".toList.contains c

/-- The userinfo's set. -/
def userinfoSet : EncodeSet := fun c => pathSet c || "/:;=@[\\]^|".toList.contains c

/-- The query's set. -/
def querySet : EncodeSet := fun c => controls c || " \"#<>".toList.contains c

/-- The query's set for special schemes. -/
def specialQuerySet : EncodeSet := fun c => querySet c || c == '\''

/-- An upper-case hexadecimal digit. -/
def hexUpper (n : Nat) : Char :=
  if n < 10 then Char.ofNat (48 + n) else Char.ofNat (55 + n)

/-- A byte as `%XX`. -/
def percentByte (b : Nat) : List Char := ['%', hexUpper (b / 16 % 16), hexUpper (b % 16)]

/-- The UTF-8 bytes of a character. -/
def utf8Bytes (c : Char) : List Nat :=
  (String.singleton c).toUTF8.toList.map (·.toNat)

/-- A character as written in a part whose set is `set`. -/
def encodeChar (set : EncodeSet) (c : Char) : List Char :=
  if c.toNat < 0x80 then (if set c then percentByte c.toNat else [c])
  else (utf8Bytes c).flatMap percentByte

/-- Characters as written in a part whose set is `set`. -/
def encode (set : EncodeSet) (cs : List Char) : List Char := cs.flatMap (encodeChar set)

/-- The value of a hexadecimal digit. -/
def hexValue (c : Char) : Option Nat :=
  if '0' ≤ c ∧ c ≤ '9' then some (c.toNat - 48)
  else if 'a' ≤ c ∧ c ≤ 'f' then some (c.toNat - 87)
  else if 'A' ≤ c ∧ c ≤ 'F' then some (c.toNat - 55)
  else none

/-- Bytes with each `%XX` of two hex digits replaced by its byte; any other
`%` stays. -/
def percentDecode : List Nat → List Nat
  | 37 :: a :: b :: rest =>
    match hexValue (Char.ofNat a), hexValue (Char.ofNat b) with
    | some x, some y => (x * 16 + y) :: percentDecode rest
    | _, _ => 37 :: percentDecode (a :: b :: rest)
  | b :: rest => b :: percentDecode rest
  | [] => []

example : encode pathSet "a b/ü".toList = "a%20b/%C3%BC".toList := by decide +kernel

end TaskConsole.Url
