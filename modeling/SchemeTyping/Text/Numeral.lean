/-! How numbers are written: in decimal digits, of which no numeral that is read or written has more
than the limit, or as a truth value, which stands for one or zero. -/
namespace SchemeTyping.Text

/-- The most digits that a numeral may have, leading zeros included. -/
def digitLimit : Nat := 4300

/-- A number was to be written that has too many digits. -/
inductive TooManyDigits where
  | tooManyDigits
  deriving DecidableEq, Repr

def TooManyDigits.message : TooManyDigits → String
  | .tooManyDigits =>
    "Exceeds the limit (" ++ toString digitLimit ++ " digits) for integer string conversion; " ++
      "use sys.set_int_max_str_digits() to increase the limit"

/-- A number whose numeral keeps to the limit. The sign is no digit. -/
def hasNumeral (number : Int) : Bool := (toString number.natAbs).length ≤ digitLimit

/-- The form in which a number is given. It shows in what is written and in nothing else. -/
inductive Spelling where
  | digits
  | truth
  deriving DecidableEq, Repr

/-- A number in its form. As a truth value zero is false and every other number is true. -/
def Spelling.write : Spelling → Int → String
  | .digits, number => toString number
  | .truth, number => if number = 0 then "False" else "True"

/-- Whether a number can be written in its form. A truth value can, whatever number it stands for. -/
def Spelling.writes : Spelling → Int → Bool
  | .digits, number => hasNumeral number
  | .truth, _ => true

/-- A text, unless it takes a number that cannot be written. -/
def whenWritable (writable : Bool) (text : String) : Except TooManyDigits String :=
  if writable then .ok text else .error .tooManyDigits

end SchemeTyping.Text
