import SchemeTyping.Text.Hex
import SchemeTyping.Text.Unprintable

/-! Quoted excerpts: a text between quotes in which every character is visible. Single quotes stand
around it unless it holds a single quote and no double quote. -/
namespace SchemeTyping.Text

/-- The quotation mark that needs the fewest escapes, the single one first. -/
def quoteFor (text : List Char) : Char :=
  if text.contains '\'' && !text.contains '"' then '"' else '\''

/-- A character without a visible form, by its code point in the shortest of three widths. -/
def escapeCode (code : Nat) : List Char :=
  if code < 0x100 then '\\' :: 'x' :: hexDigits 2 code
  else if code < 0x10000 then '\\' :: 'u' :: hexDigits 4 code
  else '\\' :: 'U' :: hexDigits 8 code

/-- One character inside an excerpt quoted by `quote`. -/
def quoteChar (quote char : Char) : List Char :=
  if char = quote || char = '\\' then ['\\', char]
  else if char = '\n' then ['\\', 'n']
  else if char = '\r' then ['\\', 'r']
  else if char = '\t' then ['\\', 't']
  else if isUnprintable char then escapeCode char.toNat
  else [char]

/-- A text as a quoted excerpt. -/
def quoted (text : List Char) : String :=
  let quote := quoteFor text
  String.ofList (quote :: text.flatMap (quoteChar quote) ++ [quote])

end SchemeTyping.Text
