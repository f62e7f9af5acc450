/-! Sets of code points given as ranges. -/
namespace SchemeTyping.Text

/-- Membership in a set given by the first and last code point of each of its ranges. -/
def inRanges (ranges : List (Nat × Nat)) (code : Nat) : Bool :=
  ranges.any fun range => range.1 ≤ code && code ≤ range.2

end SchemeTyping.Text
