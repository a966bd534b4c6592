/-! # Decimal integers: reading a 64-bit signed integer from its text. -/

namespace ErrorTrail.Text

/-- Why a text is not a 64-bit integer. -/
inductive ReadError where
  | empty
  | invalidDigit
  | tooLarge
  | tooSmall
  deriving DecidableEq, Repr

/-- The message that explains a reading failure. -/
def ReadError.message : ReadError → String
  | .empty => "cannot parse integer from empty string"
  | .invalidDigit => "invalid digit found in string"
  | .tooLarge => "number too large to fit in target type"
  | .tooSmall => "number too small to fit in target type"

/-- The least 64-bit signed integer. -/
def int64Min : Int := -9223372036854775808

/-- The greatest 64-bit signed integer. -/
def int64Max : Int := 9223372036854775807

/-- Whether an integer fits in 64 signed bits. -/
def fitsInt64 (n : Int) : Bool :=
  int64Min ≤ n && n ≤ int64Max

/-- Reads digits onto a running value: each digit is appended to the value's magnitude, with
the value's sign. -/
def readDigits (negative : Bool) (acc : Int) : List Char → Except ReadError Int
  | [] => .ok acc
  | c :: rest =>
    if c.isDigit then
      let digit : Int := c.toNat - '0'.toNat
      let next := if negative then acc * 10 - digit else acc * 10 + digit
      if int64Max < next then .error .tooLarge
      else if next < int64Min then .error .tooSmall
      else readDigits negative next rest
    else .error .invalidDigit

/-- Reads a 64-bit signed integer from its decimal text: one optional sign, then digits only, no
blanks. At each character a non-digit is reported before a value out of range. -/
def readInt64 (s : String) : Except ReadError Int :=
  match s.toList with
  | [] => .error .empty
  | ['+'] => .error .invalidDigit
  | ['-'] => .error .invalidDigit
  | '+' :: rest => readDigits false 0 rest
  | '-' :: rest => readDigits true 0 rest
  | digits => readDigits false 0 digits

example : readInt64 "-9223372036854775808" = .ok int64Min := by rfl
example : readInt64 "9223372036854775808" = .error .tooLarge := by rfl
example : readInt64 "12a99999999999999999999" = .error .invalidDigit := by rfl
example : readInt64 "-" = .error .invalidDigit := by rfl

end ErrorTrail.Text
