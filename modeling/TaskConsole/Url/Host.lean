import TaskConsole.Url.Encode
import TaskConsole.Url.Idna

/-! Hosts: domains brought to ASCII by `Idna.toAscii`, IPv4 addresses in any base,
bracketed IPv6 addresses, and the opaque hosts of other schemes. -/

namespace TaskConsole.Url

/-- A host: a domain (possibly empty), an IPv4 address, or the eight pieces of
an IPv6 address. -/
inductive Host where
  | domain (name : String)
  | ipv4 (address : Nat)
  | ipv6 (pieces : List Nat)
  deriving DecidableEq, Repr

namespace Host

/-- Lower-case hexadecimal digits of a piece, without leading zeros. -/
def hexText (n : Nat) : String :=
  String.ofList (Nat.toDigits 16 n)

/-- The first longest run of zero pieces of length at least two, as its start
and length. -/
def longestZeros (pieces : List Nat) : Option (Nat × Nat) :=
  let step (acc : Option (Nat × Nat) × Option Nat) (ip : Nat × Nat) :=
    let (best, run) := acc
    let (i, p) := ip
    if p == 0 then
      let start := run.getD i
      let len := i + 1 - start
      let best := match best with
        | some (_, l) => if len > l then some (start, len) else best
        | none => some (start, len)
      (best, some start)
    else (best, none)
  match (pieces.zipIdx.map fun (p, i) => (i, p)).foldl step (none, none) |>.1 with
  | some (s, l) => if l ≥ 2 then some (s, l) else none
  | none => none

/-- An IPv6 address as written, without brackets. -/
def ipv6Text (pieces : List Nat) : String :=
  let hex (ps : List Nat) := ":".intercalate (ps.map hexText)
  match longestZeros pieces with
  | some (s, l) => hex (pieces.take s) ++ "::" ++ hex (pieces.drop (s + l))
  | none => hex pieces

/-- A host as written in a URL. -/
def text : Host → String
  | .domain name => name
  | .ipv4 a => ".".intercalate ([24, 16, 8, 0].map fun k => toString (a / Nat.pow 2 k % 256))
  | .ipv6 ps => "[" ++ ipv6Text ps ++ "]"

/-- Whether there is no host: the empty domain. -/
def isEmpty : Host → Bool
  | .domain name => name.isEmpty
  | _ => false

end Host

/-! ## IPv6 -/

/-- The state of reading an IPv6 address: the pieces, the next piece, and
where `::` stands. -/
structure Ipv6Reader where
  pieces : List Nat := List.replicate 8 0
  pointer : Nat := 0
  compress : Option Nat := none

/-- Up to four hex digits: their value, how many, and the rest. -/
def hexPiece : Nat → List Char → Nat → Nat × Nat × List Char
  | 0, cs, v => (v, 0, cs)
  | n + 1, c :: cs, v =>
    match hexValue c with
    | some d =>
      let (v', k, rest) := hexPiece n cs (v * 16 + d)
      (v', k + 1, rest)
    | none => (v, 0, c :: cs)
  | _ + 1, [], v => (v, 0, [])

/-- Up to three decimal digits of an embedded IPv4 part: none without a digit,
an error on a leading zero or a value above 255. -/
def decimalPiece : Nat → Option Nat → List Char → Except ParseError (Option Nat × List Char)
  | 0, v, cs => .ok (v, cs)
  | fuel + 1, v, c :: cs =>
    if '0' ≤ c ∧ c ≤ '9' then
      let d := c.toNat - 48
      match v with
      | none => decimalPiece fuel (some d) cs
      | some 0 => .error .invalidIpv6
      | some x => if x * 10 + d > 255 then .error .invalidIpv6 else decimalPiece fuel (some (x * 10 + d)) cs
    else .ok (v, c :: cs)
  | _ + 1, v, [] => .ok (v, [])

/-- The embedded IPv4 part: four decimal numbers filling two pieces. -/
def ipv4Tail : Nat → Ipv6Reader → Nat → List Char → Except ParseError Ipv6Reader
  | 0, _, _, _ => .error .invalidIpv6
  | _ + 1, st, seen, [] => if seen == 4 then .ok st else .error .invalidIpv6
  | fuel + 1, st, seen, c :: cs => do
    let cs ← if seen > 0 then
        if seen < 4 ∧ c == '.' then pure cs else throw .invalidIpv6
      else pure (c :: cs)
    let (v, rest) ← decimalPiece (cs.length + 1) none cs
    let some v := v | throw .invalidIpv6
    let p := st.pieces.getD st.pointer 0
    let st := { st with pieces := st.pieces.set st.pointer (p * 256 + v) }
    let seen := seen + 1
    let st := if seen == 2 ∨ seen == 4 then { st with pointer := st.pointer + 1 } else st
    ipv4Tail fuel st seen rest

/-- Read pieces and `::` up to the end or an embedded IPv4 part. -/
def ipv6Pieces : Nat → Ipv6Reader → List Char → Except ParseError Ipv6Reader
  | 0, _, _ => .error .invalidIpv6
  | _ + 1, st, [] => .ok st
  | fuel + 1, st, c :: cs =>
    if st.pointer == 8 then .error .invalidIpv6
    else if c == ':' then
      if st.compress.isSome then .error .invalidIpv6
      else ipv6Pieces fuel { st with pointer := st.pointer + 1, compress := some (st.pointer + 1) } cs
    else
      let (v, n, after) := hexPiece 4 (c :: cs) 0
      match after with
      | '.' :: _ =>
        if n == 0 ∨ st.pointer > 6 then .error .invalidIpv6
        else ipv4Tail (cs.length + 2) st 0 (c :: cs)
      | ':' :: rest =>
        if rest.isEmpty then .error .invalidIpv6
        else ipv6Pieces fuel { st with pieces := st.pieces.set st.pointer v, pointer := st.pointer + 1 } rest
      | [] => .ok { st with pieces := st.pieces.set st.pointer v, pointer := st.pointer + 1 }
      | _ => .error .invalidIpv6

/-- Move the pieces after `::` to the end of the address. -/
def spread (st : Ipv6Reader) : Except ParseError (List Nat) :=
  match st.compress with
  | some c =>
    let after := (st.pieces.drop c).take (st.pointer - c)
    .ok (st.pieces.take c ++ List.replicate (8 - c - after.length) 0 ++ after)
  | none => if st.pointer == 8 then .ok st.pieces else .error .invalidIpv6

/-- The pieces of an IPv6 address written between brackets. -/
def parseIpv6 (cs : List Char) : Except ParseError (List Nat) := do
  if cs.length < 2 then throw .invalidIpv6
  let (st, rest) ← match cs with
    | ':' :: ':' :: rest => pure (({ pointer := 1, compress := some 1 } : Ipv6Reader), rest)
    | ':' :: _ => throw .invalidIpv6
    | _ => pure ({}, cs)
  spread (← ipv6Pieces (rest.length + 1) st rest)

/-! ## IPv4 -/

/-- One part of an IPv4 address written as a number: decimal, octal after a
leading `0`, or hexadecimal after `0x`; `none` when it is not a number, and
`some none` when it is one too large for 32 bits. -/
def ipv4Number (cs : List Char) : Option (Option Nat) :=
  if cs.isEmpty then none else
  let (radix, digits) := match cs with
    | '0' :: 'x' :: rest => (16, rest)
    | '0' :: 'X' :: rest => (16, rest)
    | '0' :: rest@(_ :: _) => (8, rest)
    | _ => (10, cs)
  if digits.isEmpty then some (some 0) else
  let value (c : Char) : Option Nat := match hexValue c with
    | some d => if d < radix then some d else none
    | none => none
  match digits.mapM value with
  | some ds =>
    let n := ds.foldl (fun acc d => acc * radix + d) 0
    some (if n < Nat.pow 2 32 then some n else none)
  | none => none

/-- The labels of a domain, without one trailing empty label. -/
def labelsOf (domain : String) : List String :=
  let parts := domain.splitOn "."
  if parts.getLast? == some "" then parts.dropLast else parts

/-- Whether a domain's last label is a number, so that it must be an IPv4
address. -/
def endsInNumber (domain : String) : Bool :=
  let parts := domain.splitOn "."
  let last := match parts.reverse with
    | "" :: prev :: _ => some prev
    | "" :: [] => none
    | l :: _ => some l
    | [] => none
  match last with
  | none => false
  | some l => (!l.isEmpty && l.toList.all Char.isDigit) || (ipv4Number l.toList).isSome

/-- The IPv4 address a domain stands for. -/
def parseIpv4 (domain : String) : Except ParseError Nat := do
  let parts := labelsOf domain
  if parts.length > 4 then throw .invalidIpv4
  let some numbers := parts.mapM (fun p => (ipv4Number p.toList).join) | throw .invalidIpv4
  let some last := numbers.getLast? | throw .invalidIpv4
  let firsts := numbers.dropLast
  if last ≥ Nat.pow 2 (32 - 8 * firsts.length) then throw .invalidIpv4
  if firsts.any (· > 255) then throw .invalidIpv4
  return last + (firsts.zipIdx.map fun (n, i) => n * Nat.pow 2 (8 * (3 - i))).foldl (· + ·) 0

/-! ## Domains -/

/-- A domain in ASCII. -/
def domainToAscii (domain : List Char) : Except ParseError String :=
  match Idna.toAscii domain with
  | some d => .ok d
  | none => .error .idna

/-- A character as read from UTF-8 bytes, refusing malformed bytes. -/
def decodeUtf8 (bytes : List Nat) : Except ParseError (List Char) :=
  match String.fromUTF8? (ByteArray.mk (bytes.map (·.toUInt8)).toArray) with
  | some s => .ok s.toList
  | none => .error .idna

/-- The host of a special URL from its text. -/
def parseHost (cs : List Char) : Except ParseError Host := do
  match cs with
  | '[' :: inner =>
    if inner.getLast? != some ']' then throw .invalidIpv6
    return .ipv6 (← parseIpv6 inner.dropLast)
  | _ =>
    let text ← decodeUtf8 (percentDecode (cs.flatMap utf8Bytes))
    let domain ← domainToAscii text
    if domain.isEmpty then throw .emptyHost
    if endsInNumber domain then return .ipv4 (← parseIpv4 domain)
    return .domain domain

/-- The characters an opaque host may not hold. -/
def forbiddenOpaque (c : Char) : Bool := "\x00\t\n\r #/:<>?@[\\]^|".toList.contains c

/-- The host of a URL of another scheme from its text. -/
def parseOpaqueHost (cs : List Char) : Except ParseError Host := do
  match cs with
  | '[' :: inner =>
    if inner.getLast? != some ']' then throw .invalidIpv6
    return .ipv6 (← parseIpv6 inner.dropLast)
  | _ =>
    if cs.any forbiddenOpaque then throw .invalidDomainCharacter
    return .domain (String.ofList (encode controls cs))

end TaskConsole.Url
