/-! # Blank text: every character of it has the Unicode White_Space property. -/

namespace ErrorTrail.Text

/-- The code points with the Unicode White_Space property. -/
def whiteSpace : List Nat :=
  [0x09, 0x0A, 0x0B, 0x0C, 0x0D, 0x20, 0x85, 0xA0, 0x1680,
   0x2000, 0x2001, 0x2002, 0x2003, 0x2004, 0x2005, 0x2006, 0x2007, 0x2008, 0x2009, 0x200A,
   0x2028, 0x2029, 0x202F, 0x205F, 0x3000]

/-- A character is blank when it has the White_Space property. -/
def isBlankChar (c : Char) : Bool :=
  whiteSpace.contains c.toNat

/-- Drops blank characters from both ends of a text. -/
def trimBlank (s : String) : String :=
  String.ofList (((s.toList.dropWhile isBlankChar).reverse.dropWhile isBlankChar).reverse)

/-- A text is blank when every character in it is blank; the empty text is blank. -/
def isBlank (s : String) : Bool :=
  s.toList.all isBlankChar

end ErrorTrail.Text
