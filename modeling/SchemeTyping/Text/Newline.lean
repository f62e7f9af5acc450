/-! One newline convention: a carriage return with or without a line feed ends a line. -/
namespace SchemeTyping.Text

/-- Every line end as a single line feed. -/
def unifyNewlines : List Char → List Char
  | [] => []
  | '\r' :: '\n' :: rest => '\n' :: unifyNewlines rest
  | '\r' :: rest => '\n' :: unifyNewlines rest
  | char :: rest => char :: unifyNewlines rest

end SchemeTyping.Text
