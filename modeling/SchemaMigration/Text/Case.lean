/-!
Letter case of names that are compared with tables of ASCII names.
-/

namespace SchemaMigration.Text

/-- The lower case of the characters that have an ASCII one: `A` to `Z` and the Kelvin sign.
No other character can become part of an ASCII name. -/
def lowerChar (c : Char) : Char :=
  if c == '\u212a' then 'k' else c.toLower

def lower (s : String) : String := String.ofList (s.toList.map lowerChar)

/-- The lower case of the letters of the first 256 characters and of the signs that share one with
them. -/
def lowerLatinChar (c : Char) : Char :=
  if c == '\u212b' then '\u00e5'
  else if 0xC0 ≤ c.toNat && c.toNat ≤ 0xDE && c.toNat != 0xD7 then Char.ofNat (c.toNat + 0x20)
  else lowerChar c

def lowerLatin (s : String) : String := String.ofList (s.toList.map lowerLatinChar)

/-- The upper case of a character. Apart from the letters of ASCII it has one only for the dotless
`i`, the long `s` and the ligatures that can become part of an ASCII word. -/
def upperChar (c : Char) : List Char :=
  match c with
  | '\u0131' => ['I']
  | '\u017f' => ['S']
  | 'ß' => ['S', 'S']
  | '\ufb00' => ['F', 'F']
  | '\ufb01' => ['F', 'I']
  | '\ufb02' => ['F', 'L']
  | '\ufb03' => ['F', 'F', 'I']
  | '\ufb04' => ['F', 'F', 'L']
  | '\ufb05' => ['S', 'T']
  | '\ufb06' => ['S', 'T']
  | _ => [c.toUpper]

def upper (s : String) : String := String.ofList (s.toList.flatMap upperChar)

end SchemaMigration.Text
