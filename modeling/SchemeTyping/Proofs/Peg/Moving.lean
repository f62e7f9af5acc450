import SchemeTyping.Proofs.Peg.Taking

/-! What stands further on in a text is read as the same trees, further on. -/
namespace SchemeTyping.Peg
variable {Rule : Type} {start distance : Nat} {input taken rest : List Char} {trees : List (Tree Rule)}

mutual
/-- A tree with all of its places further on. -/
def Tree.move (distance : Nat) : Tree Rule → Tree Rule
  | .node rule start stop children =>
    .node rule (start + distance) (stop + distance) (moveAll distance children)
  | .word text => .word text

def moveAll (distance : Nat) : List (Tree Rule) → List (Tree Rule)
  | [] => []
  | tree :: rest => tree.move distance :: moveAll distance rest
end

theorem moveAll_append (left right : List (Tree Rule)) :
    moveAll distance (left ++ right) = moveAll distance left ++ moveAll distance right := by
  induction left with
  | nil => rfl
  | cons tree left ih => rw [List.cons_append, moveAll, moveAll, ih, List.cons_append]

namespace Expr

/-- A reading with all of its places further on. -/
def moveReading (distance : Nat) : Reading Rule → Reading Rule
  | (trees, stop, rest) => (moveAll distance trees, stop + distance, rest)

/-- An expression reads the same from the same characters wherever they stand. -/
theorem read_move (expr : Expr Rule) :
    expr.read (start + distance) input = (expr.read start input).map (moveReading distance) := by
  induction expr generalizing start input with
  | text chars =>
    rw [read_text, read_text]
    split
    · simp [moveReading, moveAll, Nat.add_right_comm]
    · rfl
  | one accepts =>
    rw [read_one, read_one]
    cases input with
    | nil => rfl
    | cons char rest =>
      dsimp only
      split
      · simp [moveReading, moveAll, Nat.add_right_comm]
      · rfl
  | many accepts =>
    show some _ = some _
    simp [moveReading, moveAll, Match.reading, Nat.add_right_comm]
  | wordEnd =>
    rw [read_wordEnd, read_wordEnd]
    cases input with
    | nil => rfl
    | cons char rest =>
      dsimp only
      split
      · rfl
      · rfl
  | both first second ihFirst ihSecond =>
    rw [read_both, read_both, ihFirst]
    cases first.read start input with
    | none => rfl
    | some reading =>
      obtain ⟨left, stop, more⟩ := reading
      simp only [Option.map_some, moveReading, ihSecond, Option.map_map]
      cases second.read stop more with
      | none => rfl
      | some reading => simp [moveReading, moveAll_append]
  | either first second ihFirst ihSecond =>
    rw [read_either, read_either, ihFirst]
    cases first.read start input with
    | none => exact ihSecond
    | some reading => rfl
  | star body ih =>
    induction length : input.length using Nat.strongRecOn generalizing start input with
    | ind size shorter =>
      rw [read_star, read_star, ih]
      cases found : body.read start input with
      | none => rfl
      | some reading =>
        obtain ⟨left, stop, more⟩ := reading
        simp only [Option.map_some, moveReading, Nat.add_lt_add_iff_right]
        split
        · next further =>
          obtain ⟨front, rfl, rfl⟩ := body.read_prefix found
          have less : more.length < size := by
            rw [← length, List.length_append]
            omega
          rw [shorter more.length less rfl]
          cases (star body).read (start + front.length) more with
          | none => rfl
          | some reading => simp [moveReading, moveAll_append]
        · rfl
  | optional body ih =>
    rw [read_optional, read_optional, ih]
    cases body.read start input with
    | none => rfl
    | some reading => rfl
  | hidden body ih =>
    rw [read_hidden, read_hidden, ih]
    cases body.read start input with
    | none => rfl
    | some reading => rfl
  | word body ih =>
    rw [read_word, read_word, ih]
    cases body.read start input with
    | none => rfl
    | some reading => simp [moveReading, moveAll, Tree.move, Nat.add_sub_add_right]
  | named rule body ih =>
    rw [read_named, read_named, ih]
    cases body.read start input with
    | none => rfl
    | some reading => rfl

end Expr

/-- What is taken somewhere is taken further on as well. -/
theorem takes_move {expr : Expr Rule} (takes : Takes expr start taken rest trees) :
    Takes expr (start + distance) taken rest (moveAll distance trees) := by
  unfold Takes at takes ⊢
  rw [expr.read_move, takes, Option.map_some, Expr.moveReading, Nat.add_right_comm]

end SchemeTyping.Peg
