import Mathlib.Data.Nat.Digits.Defs
import SchemeTyping.Text.Numeral

/-! Which numbers can be written: as digits those below a power of ten, as a truth value all. -/
namespace SchemeTyping.Text

/-- A number has a numeral if it is below the power of ten for the limit, whatever its sign. -/
theorem hasNumeral_iff {number : Int} :
    hasNumeral number = true ↔ number.natAbs < 10 ^ digitLimit := by
  rw [hasNumeral, decide_eq_true_eq]
  exact Nat.length_repr_le_iff (by decide)

theorem Spelling.writes_of_hasNumeral (spelling : Spelling) {number : Int}
    (written : hasNumeral number = true) : spelling.writes number = true := by
  cases spelling with
  | digits => exact written
  | truth => rfl

end SchemeTyping.Text
