/-! Upper case as far as basic Latin letters go (`upperLatin`), for searching basic
Latin words regardless of case. -/

namespace TaskConsole.Text

/-- The full upper case of the non-ASCII characters whose upper case contains a
basic Latin letter. -/
def latinExpansion (c : Char) : Option (List Char) :=
  match c.toNat with
  | 0xDF => some ['S', 'S']
  | 0x131 => some ['I']
  | 0x149 => some ['\u02BC', 'N']
  | 0x17F => some ['S']
  | 0x1F0 => some ['J', '\u030C']
  | 0x1E96 => some ['H', '\u0331']
  | 0x1E97 => some ['T', '\u0308']
  | 0x1E98 => some ['W', '\u030A']
  | 0x1E99 => some ['Y', '\u030A']
  | 0x1E9A => some ['A', '\u02BE']
  | 0xFB00 => some ['F', 'F']
  | 0xFB01 => some ['F', 'I']
  | 0xFB02 => some ['F', 'L']
  | 0xFB03 => some ['F', 'F', 'I']
  | 0xFB04 => some ['F', 'F', 'L']
  | 0xFB05 => some ['S', 'T']
  | 0xFB06 => some ['S', 'T']
  | _ => none

/-- The upper case of a character as far as basic Latin letters go. -/
def upperLatin (c : Char) : List Char :=
  if c.toNat < 0x80 then [c.toUpper]
  else (latinExpansion c).getD [c]

/-- The upper case of a text as far as basic Latin letters go. -/
def upperLatinText (s : String) : List Char :=
  s.toList.flatMap upperLatin

/-- Whether `needle` occurs as a contiguous part of `hay`. -/
def containsChars (hay needle : List Char) : Bool :=
  (List.range (hay.length + 1)).any fun i => needle.isPrefixOf (hay.drop i)

example : upperLatinText "ﬁle ınfo" = "FILE INFO".toList := by decide +kernel

end TaskConsole.Text
