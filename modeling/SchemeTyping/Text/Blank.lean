import SchemeTyping.Text.Ranges

/-! White space of the unit format: the Unicode property of that name, so that the separators
U+001C to U+001F are not blank. -/
namespace SchemeTyping.Text

private def blankRanges : List (Nat × Nat) := [
  (0x9, 0xD), (0x20, 0x20), (0x85, 0x85), (0xA0, 0xA0), (0x1680, 0x1680), (0x2000, 0x200A),
  (0x2028, 0x2029), (0x202F, 0x202F), (0x205F, 0x205F), (0x3000, 0x3000)]

/-- A white-space character. -/
def isBlank (char : Char) : Bool := inRanges blankRanges char.toNat

end SchemeTyping.Text
