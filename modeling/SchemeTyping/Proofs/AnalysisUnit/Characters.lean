import SchemeTyping.AnalysisUnit.Grammar

/-! How the character classes of the grammar lie to one another. What a token begins with is visible, and
among visible characters those of ASCII words are the word characters. -/
namespace SchemeTyping.AnalysisUnit
open Grammar
variable {char : Char}

/-- A visible character of the first 128 code points, other than a sharp. -/
def isVisible (char : Char) : Bool := 33 ≤ char.toNat && char.toNat < 128 && char != '#'

/-- How the classes lie to one another among the first 128 code points, read off all of them at once. -/
theorem ascii_classes (ascii : char.toNat < 128) :
    (isVisible char = true → Text.isBlank char = false) ∧
      (isVisible char = true → Text.isWord char = true → continuesQualifier char = true) ∧
      (continuesIdentifier char = true → isVisible char = true) ∧
      (continuesQualifier char = true → Text.isWord char = true) := by
  have all : ∀ code : Fin 128,
      (isVisible (Char.ofNat code) = true → Text.isBlank (Char.ofNat code) = false) ∧
        (isVisible (Char.ofNat code) = true → Text.isWord (Char.ofNat code) = true →
          continuesQualifier (Char.ofNat code) = true) ∧
        (continuesIdentifier (Char.ofNat code) = true → isVisible (Char.ofNat code) = true) ∧
        (continuesQualifier (Char.ofNat code) = true → Text.isWord (Char.ofNat code) = true) := by
    decide +kernel
  have own := all ⟨char.toNat, ascii⟩
  rwa [Char.ofNat_toNat] at own

theorem ascii_of_isVisible (visible : isVisible char = true) : char.toNat < 128 := by
  simp only [isVisible, Bool.and_eq_true, decide_eq_true_eq] at visible
  exact visible.1.2

theorem isBlank_of_isVisible (visible : isVisible char = true) : Text.isBlank char = false :=
  (ascii_classes (ascii_of_isVisible visible)).1 visible

/-- Among the visible characters only letters, digits and the underscore are word characters. -/
theorem continuesQualifier_of_isVisible (visible : isVisible char = true)
    (word : Text.isWord char = true) : continuesQualifier char = true :=
  (ascii_classes (ascii_of_isVisible visible)).2.1 visible word

theorem ascii_of_continuesIdentifier (continues : continuesIdentifier char = true) :
    char.toNat < 128 := by
  simp only [continuesIdentifier, startsIdentifier, isLetter, isDigit, Bool.or_eq_true,
    Bool.and_eq_true, decide_eq_true_eq, Char.le_def, UInt32.le_iff_toNat_le, beq_iff_eq] at continues
  rcases continues with (((((small | large) | rfl) | rfl) | digit) | rfl)
  · exact Nat.lt_of_le_of_lt small.2 (by decide)
  · exact Nat.lt_of_le_of_lt large.2 (by decide)
  · decide
  · decide
  · exact Nat.lt_of_le_of_lt digit.2 (by decide)
  · decide

/-- What may stand in an identifier is visible. -/
theorem isVisible_of_continuesIdentifier (continues : continuesIdentifier char = true) :
    isVisible char = true :=
  (ascii_classes (ascii_of_continuesIdentifier continues)).2.2.1 continues

theorem isVisible_of_startsIdentifier (starts : startsIdentifier char = true) :
    isVisible char = true :=
  isVisible_of_continuesIdentifier (by simp [continuesIdentifier, starts])

theorem isVisible_of_isLetter (letter : isLetter char = true) : isVisible char = true :=
  isVisible_of_startsIdentifier (by simp [startsIdentifier, letter])

theorem isVisible_of_isDigit (digit : isDigit char = true) : isVisible char = true :=
  isVisible_of_continuesIdentifier (by simp [continuesIdentifier, digit])

theorem continuesIdentifier_of_continuesQualifier (continues : continuesQualifier char = true) :
    continuesIdentifier char = true := by
  rcases Bool.or_eq_true_iff.mp continues with letter | digit
  · simp [continuesIdentifier, startsIdentifier, letter]
  · simp [continuesIdentifier, digit]

/-- The characters of ASCII words are word characters. -/
theorem isWord_of_continuesQualifier (continues : continuesQualifier char = true) :
    Text.isWord char = true :=
  (ascii_classes (ascii_of_continuesIdentifier
    (continuesIdentifier_of_continuesQualifier continues))).2.2.2 continues

/-- The code points of white space. -/
def blankCodes : List Nat := [
  0x9, 0xA, 0xB, 0xC, 0xD, 0x20, 0x85, 0xA0, 0x1680, 0x2000, 0x2001, 0x2002, 0x2003, 0x2004,
  0x2005, 0x2006, 0x2007, 0x2008, 0x2009, 0x200A, 0x2028, 0x2029, 0x202F, 0x205F, 0x3000]

theorem mem_blankCodes (white : Text.isBlank char = true) : char.toNat ∈ blankCodes := by
  have within : Text.inRanges [
      (0x9, 0xD), (0x20, 0x20), (0x85, 0x85), (0xA0, 0xA0), (0x1680, 0x1680), (0x2000, 0x200A),
      (0x2028, 0x2029), (0x202F, 0x202F), (0x205F, 0x205F), (0x3000, 0x3000)] char.toNat = true :=
    white
  simp only [Text.inRanges, List.any_cons, List.any_nil, Bool.or_false, Bool.or_eq_true,
    Bool.and_eq_true, decide_eq_true_eq] at within
  simp only [blankCodes, List.mem_cons, List.not_mem_nil, or_false]
  omega

/-- No white space continues a word. -/
theorem isWord_of_isBlank (white : Text.isBlank char = true) : Text.isWord char = false := by
  have all : ∀ code ∈ blankCodes, Text.isWord (Char.ofNat code) = false := by decide +kernel
  have own := all char.toNat (mem_blankCodes white)
  rwa [Char.ofNat_toNat] at own

end SchemeTyping.AnalysisUnit
