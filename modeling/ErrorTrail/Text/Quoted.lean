import ErrorTrail.Text.Printable
import ErrorTrail.Text.GraphemeExtend

/-! # Quoted text: the inspection form of a text, with escapes. -/

namespace ErrorTrail.Text

/-- A code point escape: a backslash, the letter u, and the code in lowercase hexadecimal
between braces. -/
def codeEscape (c : Char) : String :=
  "\\u\x7b" ++ String.ofList (Nat.toDigits 16 c.toNat) ++ "\x7d"

/-- The inspection form of one character inside a quoted text. Printable ASCII other than the
backslash and the double quote stands as it is. -/
def quoteChar (c : Char) : String :=
  if c = '\x00' then "\\0"
  else if c = '\t' then "\\t"
  else if c = '\r' then "\\r"
  else if c = '\n' then "\\n"
  else if c = '\\' then "\\\\"
  else if c = '"' then "\\\""
  else if 0x20 ≤ c.toNat ∧ c.toNat < 0x7F then c.toString
  else if isGraphemeExtender c || !isPrintable c then codeEscape c
  else c.toString

/-- The inspection form of a text: its characters quoted one by one between double quotes. -/
def quote (s : String) : String :=
  "\"" ++ String.join (s.toList.map quoteChar) ++ "\""

/-- The inspection form of an optional text: `None`, or `Some` with the quoted text. -/
def quoteOption : Option String → String
  | none => "None"
  | some s => "Some(" ++ quote s ++ ")"

/-- The inspection form of a sequence: its items between brackets, separated by a comma and a
space. -/
def bracketList (items : List String) : String :=
  "[" ++ ", ".intercalate items ++ "]"

example : quote "a\"b\\c\n" = "\"a\\\"b\\\\c\\n\"" := by rfl
example : quoteChar (Char.ofNat 0x7f) = "\\u\x7b7f\x7d" := by decide +kernel

end ErrorTrail.Text
