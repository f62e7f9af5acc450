import SchemeTyping.Peg.Tree
import SchemeTyping.Text.Word

/-! Parsing expressions with ordered choice and greedy repetition. Expressions are closed, so a match
is found by recursion on the expression; only repetition also recurses on the input. -/
namespace SchemeTyping.Peg

/-- A parsing expression over named rules. -/
inductive Expr (Rule : Type) where
  /-- exactly these characters -/
  | text (chars : List Char)
  /-- one character of a class -/
  | one (accepts : Char → Bool)
  /-- the longest run of characters of a class -/
  | many (accepts : Char → Bool)
  /-- the end of a word: no word character follows -/
  | wordEnd
  | both (first second : Expr Rule)
  | either (first second : Expr Rule)
  | star (body : Expr Rule)
  | optional (body : Expr Rule)
  /-- the body without its trees -/
  | hidden (body : Expr Rule)
  /-- the characters of the body as a word -/
  | word (body : Expr Rule)
  /-- a node of a rule over the trees of the body -/
  | named (rule : Rule) (body : Expr Rule)

/-- A match of the characters that follow an offset: what it reads, where it stops and what is left.
It stops as many characters further on as it has taken. -/
structure Match (Rule : Type) (start : Nat) (input : List Char) where
  trees : List (Tree Rule)
  stop : Nat
  rest : List Char
  taken : stop + rest.length = start + input.length

namespace Match
variable {Rule : Type} {start : Nat} {input : List Char}

/-- The match that takes nothing. -/
def nothing (start : Nat) (input : List Char) : Match Rule start input := ⟨[], start, input, rfl⟩

/-- A match with other trees. -/
def withTrees (found : Match Rule start input) (trees : List (Tree Rule)) :
    Match Rule start input :=
  { found with trees }

/-- A match and one that begins where it stops. -/
def append (first : Match Rule start input) (second : Match Rule first.stop first.rest) :
    Match Rule start input :=
  ⟨first.trees ++ second.trees, second.stop, second.rest, second.taken.trans first.taken⟩

/-- The characters that a match takes. -/
def chars (found : Match Rule start input) : List Char := input.take (found.stop - start)

end Match

variable {Rule : Type}

theorem length_drop_of_prefix {chars input : List Char} (begins : chars.isPrefixOf input) :
    chars.length + (input.drop chars.length).length = input.length := by
  have fits := (List.isPrefixOf_iff_prefix.mp begins).length_le
  rw [List.length_drop]
  omega

theorem length_takeWhile_add_dropWhile (accepts : Char → Bool) (input : List Char) :
    (input.takeWhile accepts).length + (input.dropWhile accepts).length = input.length := by
  rw [← List.length_append, List.takeWhile_append_dropWhile]

/-- Match a step as often as it takes something. -/
def repeated (step : (start : Nat) → (input : List Char) → Option (Match Rule start input))
    (start : Nat) (input : List Char) : Match Rule start input :=
  match step start input with
  | none => .nothing start input
  | some first =>
    if _further : start < first.stop then first.append (repeated step first.stop first.rest)
    else .nothing start input
  termination_by input.length
  decreasing_by have taken := first.taken; omega

namespace Expr

/-- Match an expression against the characters that follow an offset. -/
def run : Expr Rule → (start : Nat) → (input : List Char) → Option (Match Rule start input)
  | .text chars, start, input =>
    if begins : chars.isPrefixOf input then
      some ⟨[], start + chars.length, input.drop chars.length, by
        rw [Nat.add_assoc, length_drop_of_prefix begins]⟩
    else none
  | .one accepts, start, input =>
    match input with
    | [] => none
    | char :: rest =>
      if accepts char then some ⟨[], start + 1, rest, by simp only [List.length_cons]; omega⟩
      else none
  | .many accepts, start, input =>
    some ⟨[], start + (input.takeWhile accepts).length, input.dropWhile accepts, by
      rw [Nat.add_assoc, length_takeWhile_add_dropWhile]⟩
  | .wordEnd, start, input =>
    match input with
    | [] => some (.nothing start [])
    | char :: rest => if Text.isWord char then none else some (.nothing start (char :: rest))
  | .both first second, start, input =>
    match first.run start input with
    | none => none
    | some head => (second.run head.stop head.rest).map head.append
  | .either first second, start, input =>
    match first.run start input with
    | some found => some found
    | none => second.run start input
  | .star body, start, input => some (repeated body.run start input)
  | .optional body, start, input =>
    match body.run start input with
    | some found => some found
    | none => some (.nothing start input)
  | .hidden body, start, input =>
    (body.run start input).map fun found => found.withTrees []
  | .word body, start, input =>
    (body.run start input).map fun found => found.withTrees [.word found.chars]
  | .named rule body, start, input =>
    (body.run start input).map fun found =>
      found.withTrees [.node rule start found.stop found.trees]

/-- Expressions one after the other. -/
def all : List (Expr Rule) → Expr Rule
  | [] => .text []
  | [expr] => expr
  | expr :: rest => .both expr (all rest)

/-- The first of some expressions that matches. -/
def any (first : Expr Rule) : List (Expr Rule) → Expr Rule
  | [] => first
  | second :: rest => .either first (any second rest)

end Expr
end SchemeTyping.Peg
