import SchemeTyping.Proofs.Peg.Taking

/-! Traces: complete match trees, with a node for every expression that is matched. Tracing an expression
changes the trees that it reads, but not what it takes. -/
namespace SchemeTyping.Peg
variable {Rule : Type} {start : Nat} {input taken rest : List Char}

namespace Expr

/-- The expression with a node around each of its parts, also where it hides trees or reads words. The
nodes of named rules keep the names. -/
def traced : Expr Rule → Expr (Option Rule)
  | .text chars => .named none (.text chars)
  | .one accepts => .named none (.one accepts)
  | .many accepts => .named none (.many accepts)
  | .wordEnd => .named none .wordEnd
  | .both first second => .named none (.both first.traced second.traced)
  | .either first second => .named none (.either first.traced second.traced)
  | .star body => .named none (.star body.traced)
  | .optional body => .named none (.optional body.traced)
  | .hidden body => .named none body.traced
  | .word body => .named none body.traced
  | .named rule body => .named (some rule) body.traced

theorem exists_traced_eq_named (expr : Expr Rule) : ∃ label body, expr.traced = .named label body := by
  cases expr <;> exact ⟨_, _, rfl⟩

theorem begins_traced (expr : Expr Rule) (next : Option Char) :
    expr.traced.begins next = expr.begins next := by
  induction expr with
  | text chars => cases chars <;> rfl
  | both first second ih _ => exact ih
  | either first second ihFirst ihSecond => simp only [traced, begins, ihFirst, ihSecond]
  | hidden body ih => exact ih
  | word body ih => exact ih
  | named rule body ih => exact ih
  | one _ => rfl
  | many _ => rfl
  | wordEnd => rfl
  | star _ _ => rfl
  | optional _ _ => rfl

/-- Where a match of an expression stops, and what it leaves. -/
def reach (expr : Expr Rule) (start : Nat) (input : List Char) : Option (Nat × List Char) :=
  (expr.read start input).map Prod.snd

theorem reach_named {rule : Rule} (body : Expr Rule) :
    (named rule body).reach start input = body.reach start input := by
  unfold reach
  rw [read_named]
  cases body.read start input with
  | none => rfl
  | some reading => rfl

theorem reach_both (first second : Expr Rule) : (both first second).reach start input =
    (first.reach start input).bind fun (stop, rest) => second.reach stop rest := by
  unfold reach
  rw [read_both]
  cases first.read start input with
  | none => rfl
  | some reading =>
    simp only [Option.map_some, Option.bind_some, Option.map_map]
    rfl

theorem reach_either (first second : Expr Rule) : (either first second).reach start input =
    (first.reach start input).or (second.reach start input) := by
  unfold reach
  rw [read_either]
  cases first.read start input with
  | none => rfl
  | some reading => rfl

theorem reach_optional (body : Expr Rule) : (optional body).reach start input =
    (body.reach start input).or (some (start, input)) := by
  unfold reach
  rw [read_optional]
  cases body.read start input with
  | none => rfl
  | some reading => rfl

theorem reach_hidden (body : Expr Rule) : (hidden body).reach start input = body.reach start input := by
  unfold reach
  rw [read_hidden]
  cases body.read start input with
  | none => rfl
  | some reading => rfl

theorem reach_word (body : Expr Rule) : (word body).reach start input = body.reach start input := by
  unfold reach
  rw [read_word]
  cases body.read start input with
  | none => rfl
  | some reading => rfl

/-- How far a repetition goes hangs on how far its body goes. -/
theorem reach_star_congr {Other : Type} {body : Expr Rule} {other : Expr Other}
    (same : ∀ start input, body.reach start input = other.reach start input) :
    (star body).reach start input = (star other).reach start input := by
  induction length : input.length using Nat.strongRecOn generalizing start input with
  | ind size shorter =>
    have first := same start input
    unfold reach at first ⊢
    rw [read_star, read_star]
    cases found : body.read start input with
    | none =>
      rw [found, Option.map_none, eq_comm, Option.map_eq_none_iff] at first
      rw [first]
      rfl
    | some reading =>
      obtain ⟨trees, stop, rest⟩ := reading
      rw [found, Option.map_some, eq_comm] at first
      obtain ⟨⟨_, _, _⟩, otherFound, equal⟩ := Option.map_eq_some_iff.mp first
      cases equal
      rw [otherFound]
      dsimp only
      split
      · next further =>
        obtain ⟨front, rfl, rfl⟩ := body.read_prefix found
        have less : rest.length < size := by
          rw [← length, List.length_append]
          omega
        have later := @shorter rest.length less (start + front.length) rest rfl
        simpa [reach, Function.comp_def] using later
      · rfl

/-- Tracing does not change what an expression takes. -/
theorem reach_traced (expr : Expr Rule) (start : Nat) (input : List Char) :
    expr.traced.reach start input = expr.reach start input := by
  induction expr generalizing start input with
  | text chars =>
    rw [traced, reach_named]
    unfold reach
    rw [read_text, read_text]
    split
    · rfl
    · rfl
  | one accepts =>
    rw [traced, reach_named]
    unfold reach
    rw [read_one, read_one]
    cases input with
    | nil => rfl
    | cons char rest =>
      dsimp only
      split
      · rfl
      · rfl
  | many accepts => exact reach_named _
  | wordEnd =>
    rw [traced, reach_named]
    unfold reach
    rw [read_wordEnd, read_wordEnd]
    cases input with
    | nil => rfl
    | cons char rest =>
      dsimp only
      split
      · rfl
      · rfl
  | both first second ihFirst ihSecond =>
    rw [traced, reach_named, reach_both, reach_both, ihFirst]
    exact congrArg _ (funext fun (stop, rest) => ihSecond stop rest)
  | either first second ihFirst ihSecond =>
    rw [traced, reach_named, reach_either, reach_either, ihFirst, ihSecond]
  | star body ih =>
    rw [traced, reach_named]
    exact reach_star_congr ih
  | optional body ih => rw [traced, reach_named, reach_optional, reach_optional, ih]
  | hidden body ih => rw [traced, reach_named, reach_hidden, ih]
  | word body ih => rw [traced, reach_named, reach_word, ih]
  | named rule body ih => rw [traced, reach_named, reach_named, ih]

end Expr

theorem exists_takes_iff {expr : Expr Rule} : (∃ trees, Takes expr start taken rest trees) ↔
    expr.reach start (taken ++ rest) = some (start + taken.length, rest) := by
  unfold Takes Expr.reach
  constructor
  · rintro ⟨trees, found⟩
    rw [found]
    rfl
  · intro reached
    obtain ⟨⟨trees, _, _⟩, found, same⟩ := Option.map_eq_some_iff.mp reached
    cases same
    exact ⟨trees, found⟩

/-- Something is taken with a trace exactly if it is taken. -/
theorem exists_takes_traced_iff {expr : Expr Rule} :
    (∃ traces, Takes expr.traced start taken rest traces) ↔
      ∃ trees, Takes expr start taken rest trees := by
  rw [exists_takes_iff, exists_takes_iff, expr.reach_traced]

end SchemeTyping.Peg
