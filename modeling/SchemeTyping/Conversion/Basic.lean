import SchemeTyping.Text.Numeral

/-! Scheme conversions: at a position, a value changes from one scheme to another. -/
namespace SchemeTyping

/-- A required change of scheme. -/
structure Conversion where
  position : Int
  source : String
  target : String
  spelling : Text.Spelling := .digits
  deriving DecidableEq, Repr

/-- Whether the position can be written in the form in which it was given. -/
def Conversion.isWritable (conversion : Conversion) : Bool :=
  conversion.spelling.writes conversion.position

/-- A conversion in one line. -/
def Conversion.toText (conversion : Conversion) : String :=
  conversion.spelling.write conversion.position ++ ": " ++ conversion.source ++ " => " ++
    conversion.target

end SchemeTyping
