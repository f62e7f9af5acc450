/-! Match trees: a node for each named rule with the place it covers, and the words read. -/
namespace SchemeTyping.Peg

/-- What a match reads, from left to right. -/
inductive Tree (Rule : Type) where
  | node (rule : Rule) (start stop : Nat) (children : List (Tree Rule))
  | word (text : List Char)

variable {Rule : Type} [DecidableEq Rule]

mutual
/-- The words read directly below the nodes of a rule. -/
def Tree.wordsOf (wanted : Rule) : Tree Rule → List (List Char)
  | .node rule _ _ children =>
    (if rule = wanted then children.filterMap fun
      | .word text => some text
      | .node .. => none
    else []) ++ wordsOfAll wanted children
  | .word _ => []

def wordsOfAll (wanted : Rule) : List (Tree Rule) → List (List Char)
  | [] => []
  | tree :: rest => tree.wordsOf wanted ++ wordsOfAll wanted rest
end

end SchemeTyping.Peg
