import SchemeTyping.Text.Numeral

/-! Places in a source text. Lines and columns count from one; a zero line or column is absent. -/
namespace SchemeTyping

/-- A place in a named source. -/
structure Span where
  file : String := ""
  line : Int := 0
  column : Int := 0
  lineSpelling : Text.Spelling := .digits
  columnSpelling : Text.Spelling := .digits
  deriving DecidableEq, Repr

namespace Span

/-- How many characters of a text stand before an offset. An offset beyond the end stands for the
end, and a negative one counts from the end. -/
def charsBefore (text : List Char) (offset : Int) : Nat :=
  if 0 ≤ offset then min offset.toNat text.length
  else (offset + text.length).toNat

/-- The number of characters up to and including the last line feed. -/
def lineStart (before : List Char) : Nat :=
  before.length - (before.reverse.takeWhile (· != '\n')).length

/-- The place of an offset in a text. -/
def ofOffset (text : List Char) (offset : Int) (file : String) : Span :=
  let before := text.take (charsBefore text offset)
  { file, line := before.count '\n' + 1, column := offset - lineStart before + 1 }

/-- The source, then line and column as far as they are present. -/
def toText (span : Span) : String :=
  let source := if span.file = "" then "<string>" else span.file
  let line := source ++ ":" ++ span.lineSpelling.write span.line
  if span.line = 0 then source
  else if span.column = 0 then line
  else line ++ ":" ++ span.columnSpelling.write span.column

/-- The text of a place, unless a number in it has too many digits. -/
def write (span : Span) : Except Text.TooManyDigits String :=
  Text.whenWritable (span.line = 0 || (Text.hasNumeral span.line && Text.hasNumeral span.column))
    span.toText

end Span
end SchemeTyping
