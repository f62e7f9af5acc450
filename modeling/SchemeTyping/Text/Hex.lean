/-! Lower-case hexadecimal digits of a fixed count. -/
namespace SchemeTyping.Text

/-- The last `count` hexadecimal digits of a number, leading zeros included. -/
def hexDigits (count code : Nat) : List Char :=
  (List.range count).reverse.map fun place => Nat.digitChar (code / Nat.pow 16 place % 16)

end SchemeTyping.Text
