import TaskConsole.Text.DomainMap
import TaskConsole.Text.Normal
import TaskConsole.Text.Bidi
import TaskConsole.Text.Mark
import TaskConsole.Text.Joining
import TaskConsole.Url.Punycode

/-! International domain names: the ASCII form of a domain as a URL host writes it,
under UTS #46 with the options URLs use. -/

namespace TaskConsole.Url.Idna

open Text

/-- The ASCII characters a host may not hold: controls, space, delete and
`#%/:<>?@[\]^|`. -/
def forbiddenAscii (c : Char) : Bool :=
  c.toNat ≤ 0x20 || c.toNat == 0x7F || "%#/:<>?@[\\]^|".toList.contains c

/-- Whether a character is beyond ASCII. -/
def isWide (c : Char) : Bool := 0x80 ≤ c.toNat

/-- The characters of a name after mapping, or `none` when one is refused. -/
def mapName (cs : List Char) : Option (List Char) :=
  cs.flatMapM fun c => match treatment c with
    | .valid => some [c]
    | .ignored => some []
    | .mapped replacement => some replacement
    | .disallowed => none

/-- The labels of a name: the pieces between dots. -/
def labels (cs : List Char) : List (List Char) :=
  ((String.ofList cs).splitOn ".").map String.toList

/-- The zero width non-joiner and joiner. -/
def nonJoiner : Char := '\u200C'
def joiner : Char := '\u200D'

/-- Whether a character is a virama: of combining class 9. -/
def isVirama (c : Char) : Bool := combiningClass c.toNat == 9

/-- The first character of `cs` that is not transparent for joining. -/
def firstJoining (cs : List Char) : Option JoiningType :=
  (cs.dropWhile fun c => joiningType c == .transparent).head?.map joiningType

/-- Whether the joiner at the head of `after` stands where RFC 5892 allows it: after a
virama, or for the non-joiner between characters joining on either side. -/
def joinerAllowed (before : List Char) (c : Char) (after : List Char) : Bool :=
  match before.head? with
  | some p =>
    isVirama p ||
      (c == nonJoiner &&
        (match firstJoining before with
          | some .leftJoining | some .dualJoining => true
          | _ => false) &&
        (match firstJoining after with
          | some .rightJoining | some .dualJoining => true
          | _ => false))
  | none => false

/-- Whether every joiner of a label stands where it is allowed; `before`
holds the characters already passed, nearest first. -/
def joinersAllowed : List Char → List Char → Bool
  | _, [] => true
  | before, c :: rest =>
    (if c == nonJoiner || c == joiner then joinerAllowed before c rest else true) &&
      joinersAllowed (c :: before) rest

/-- Whether a label may stand in a name: it does not start with a mark and
its joiners are allowed. -/
def labelAllowed (label : List Char) : Bool :=
  (match label.head? with
    | some c => !isMark c
    | none => true) &&
  joinersAllowed [] label

/-- The Unicode form of a label written as `xn--` and Punycode, when it is
well formed. -/
def decodeLabel (code : List Char) : Option (List Char) := do
  if code.any isWide then none
  let decoded ← Punycode.decode code
  if !decoded.any isWide then none
  if nfc decoded != decoded then none
  if !decoded.all fun c => treatment c == .valid then none
  if decoded.take 4 == "xn--".toList then none
  return decoded

/-- A label in its Unicode and its ASCII form, when it may stand in a name;
a label beyond ASCII needs a Punycode form, so it may not be longer than
`Punycode.encodeLimit`. -/
def label (l : List Char) : Option (List Char × List Char) := do
  let unicode ← match l with
    | 'x' :: 'n' :: '-' :: '-' :: code => decodeLabel code
    | _ => some l
  if !labelAllowed unicode then none
  if unicode.any isWide && Punycode.encodeLimit < unicode.length then none
  let ascii := if l.any isWide then "xn--".toList ++ Punycode.encode l else l
  return (unicode, ascii)

/-- Whether a class makes a label right-to-left text. -/
def isRightToLeft (c : Char) : Bool :=
  match bidiClass c with
  | .rightToLeft | .arabicLetter | .arabicNumber => true
  | _ => false

/-- The label with its trailing non-spacing marks dropped. -/
def withoutTrailingMarks (l : List Char) : List Char :=
  (l.reverse.dropWhile fun c => bidiClass c == .nonspacingMark).reverse

/-- Whether a label follows the bidirectional rule of RFC 5893, as a left-to-right or
a right-to-left label. -/
def followsBidiRule (l : List Char) : Bool :=
  match l with
  | [] => true
  | first :: rest =>
    let last := (withoutTrailingMarks l).getLast?.map bidiClass
    match bidiClass first with
    | .leftToRight =>
      rest.all (fun c => match bidiClass c with
        | .leftToRight | .europeanNumber | .europeanSeparator | .commonSeparator
        | .europeanTerminator | .otherNeutral | .boundaryNeutral | .nonspacingMark => true
        | _ => false) &&
      (match last with
        | some .leftToRight | some .europeanNumber => true
        | _ => false)
    | .rightToLeft | .arabicLetter =>
      rest.all (fun c => match bidiClass c with
        | .rightToLeft | .arabicLetter | .arabicNumber | .europeanNumber | .europeanSeparator
        | .commonSeparator | .europeanTerminator | .otherNeutral | .boundaryNeutral
        | .nonspacingMark => true
        | _ => false) &&
      (match last with
        | some .rightToLeft | some .arabicLetter | some .europeanNumber | some .arabicNumber => true
        | _ => false) &&
      !(l.any (bidiClass · == .europeanNumber) && l.any (bidiClass · == .arabicNumber))
    | _ => false

/-- The ASCII form of a domain name, or `none` when it is not a valid
international domain name. -/
def toAscii (name : List Char) : Option String := do
  let mapped ← mapName name
  let normal := nfc mapped
  if normal.any forbiddenAscii then none
  let forms ← (labels normal).mapM label
  let unicode := forms.map (·.1)
  if unicode.any (·.any isRightToLeft) && !unicode.all followsBidiRule then none
  return ".".intercalate (forms.map fun f => String.ofList f.2)

end TaskConsole.Url.Idna
