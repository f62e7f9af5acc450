import SchemeTyping.Text.Newline

/-! Line ends of text. Unifying them is replacing carriage returns in two steps, and leaves text without any
as it is. -/
namespace SchemeTyping.Text

/-- Every carriage return with a line feed behind it as the line feed alone. -/
def joinReturns : List Char → List Char
  | [] => []
  | '\r' :: '\n' :: rest => '\n' :: joinReturns rest
  | char :: rest => char :: joinReturns rest

/-- Every carriage return as a line feed. -/
def feedReturns (text : List Char) : List Char := text.map fun char => if char = '\r' then '\n' else char

/-- Line ends are unified by joining carriage returns to their line feeds first, and by turning into line
feeds those that remain. -/
theorem unifyNewlines_eq (text : List Char) : unifyNewlines text = feedReturns (joinReturns text) := by
  fun_induction unifyNewlines text with
  | case1 => rfl
  | case2 rest ih => rw [joinReturns, feedReturns, List.map_cons, ih]; rfl
  | case3 rest lone ih =>
    rw [joinReturns, feedReturns, List.map_cons, ih]
    · rfl
    · exact fun behind _ => lone behind
  | case4 char rest paired lone ih =>
    rw [joinReturns, feedReturns, List.map_cons, ih, if_neg lone]
    · rfl
    · exact paired

theorem unifyNewlines_of_not_mem {chars : List Char} (plain : '\r' ∉ chars) :
    unifyNewlines chars = chars := by
  fun_induction unifyNewlines chars with
  | case1 => rfl
  | case2 rest ih => exact absurd List.mem_cons_self plain
  | case3 rest _ ih => exact absurd List.mem_cons_self plain
  | case4 char rest _ _ ih => rw [ih fun member => plain (List.mem_cons_of_mem _ member)]

end SchemeTyping.Text
