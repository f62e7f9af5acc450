/-! The pieces of a text between separators. -/
namespace SchemeTyping.Text

/-- Cut a text at every separator. The pieces hold none and may be empty. -/
def pieces (separator : Char) : List Char → List (List Char)
  | [] => [[]]
  | char :: rest =>
    if char = separator then [] :: pieces separator rest
    else (pieces separator rest).modifyHead (char :: ·)

end SchemeTyping.Text
