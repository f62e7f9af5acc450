import SchemeTyping.Peg.Match

/-! What expressions take from an input: for each constructor an equivalence between taking some
characters before a rest and what its parts take. A choice or a repetition also depends on what its
parts refuse, which mostly shows in the first character already. -/
namespace SchemeTyping.Peg
variable {Rule : Type}

/-- The trees, the stop and the rest of a match. -/
abbrev Reading (Rule : Type) := List (Tree Rule) × Nat × List Char

namespace Match
variable {start : Nat} {input : List Char}

def reading (found : Match Rule start input) : Reading Rule := (found.trees, found.stop, found.rest)

end Match

namespace Expr

/-- What a run of an expression finds. -/
def read (expr : Expr Rule) (start : Nat) (input : List Char) : Option (Reading Rule) :=
  (expr.run start input).map Match.reading

variable {start : Nat} {input : List Char}

theorem read_text (chars : List Char) : (text chars : Expr Rule).read start input =
    if chars.isPrefixOf input then some ([], start + chars.length, input.drop chars.length)
    else none := by
  show Option.map Match.reading (dite (chars.isPrefixOf input = true) _ _) = _
  split
  · rfl
  · rfl

theorem read_one (accepts : Char → Bool) : (one accepts : Expr Rule).read start input =
    match input with
    | [] => none
    | char :: rest => if accepts char then some ([], start + 1, rest) else none := by
  cases input with
  | nil => rfl
  | cons char rest => exact apply_ite (Option.map Match.reading) (accepts char = true) _ _

theorem read_wordEnd : (wordEnd : Expr Rule).read start input =
    match input with
    | [] => some ([], start, [])
    | char :: rest => if Text.isWord char then none else some ([], start, char :: rest) := by
  cases input with
  | nil => rfl
  | cons char rest => exact apply_ite (Option.map Match.reading) (Text.isWord char = true) _ _

theorem read_both (first second : Expr Rule) : (both first second).read start input =
    match first.read start input with
    | none => none
    | some (trees, stop, rest) =>
      (second.read stop rest).map fun (more, reading) => (trees ++ more, reading) := by
  unfold read
  rw [run]
  cases first.run start input with
  | none => rfl
  | some head =>
    simp only [Option.map_some, Match.reading, Option.map_map]
    rfl

theorem read_either (first second : Expr Rule) : (either first second).read start input =
    match first.read start input with
    | some reading => some reading
    | none => second.read start input := by
  unfold read
  rw [run]
  cases first.run start input with
  | none => rfl
  | some found => rfl

theorem read_optional (body : Expr Rule) : (optional body).read start input =
    match body.read start input with
    | some reading => some reading
    | none => some ([], start, input) := by
  unfold read
  rw [run]
  cases body.run start input with
  | none => rfl
  | some found => rfl

theorem read_hidden (body : Expr Rule) : (hidden body).read start input =
    (body.read start input).map fun (_, reading) => ([], reading) := by
  unfold read
  show Option.map Match.reading ((body.run start input).map _) = _
  cases body.run start input with
  | none => rfl
  | some found => rfl

theorem read_word (body : Expr Rule) : (word body).read start input =
    (body.read start input).map fun (_, stop, rest) =>
      ([.word (input.take (stop - start))], stop, rest) := by
  unfold read
  show Option.map Match.reading ((body.run start input).map _) = _
  cases body.run start input with
  | none => rfl
  | some found => rfl

theorem read_named (rule : Rule) (body : Expr Rule) : (named rule body).read start input =
    (body.read start input).map fun (trees, stop, rest) =>
      ([.node rule start stop trees], stop, rest) := by
  unfold read
  show Option.map Match.reading ((body.run start input).map _) = _
  cases body.run start input with
  | none => rfl
  | some found => rfl

/-- A repetition goes on as long as its body takes something. -/
theorem read_star (body : Expr Rule) : (star body).read start input =
    match body.read start input with
    | none => some ([], start, input)
    | some (trees, stop, rest) =>
      if start < stop then
        ((star body).read stop rest).map fun (more, reading) => (trees ++ more, reading)
      else some ([], start, input) := by
  unfold read
  simp only [run]
  rw [repeated]
  cases body.run start input with
  | none => rfl
  | some first =>
    simp only [Option.map_some, Match.reading]
    split
    · rfl
    · rfl

/-- A run takes the first characters of its input, stops as many further on, and leaves the rest. -/
theorem read_prefix (expr : Expr Rule) {trees : List (Tree Rule)} {stop : Nat} {rest : List Char}
    (found : expr.read start input = some (trees, stop, rest)) :
    ∃ taken, input = taken ++ rest ∧ stop = start + taken.length := by
  induction expr generalizing start input trees stop rest with
  | text chars =>
    rw [read_text] at found
    split at found
    · next begins =>
      cases found
      obtain ⟨more, rfl⟩ := List.isPrefixOf_iff_prefix.mp begins
      exact ⟨chars, by simp, rfl⟩
    · cases found
  | one accepts =>
    rw [read_one] at found
    split at found
    · cases found
    · next char more =>
      split at found
      · cases found
        exact ⟨[char], rfl, rfl⟩
      · cases found
  | many accepts =>
    cases found
    exact ⟨input.takeWhile accepts, List.takeWhile_append_dropWhile.symm, rfl⟩
  | wordEnd =>
    rw [read_wordEnd] at found
    split at found
    · cases found
      exact ⟨[], rfl, rfl⟩
    · split at found
      · cases found
      · cases found
        exact ⟨[], rfl, rfl⟩
  | both first second ihFirst ihSecond =>
    rw [read_both] at found
    split at found
    · cases found
    · next head =>
      obtain ⟨⟨_, _, _⟩, tail, same⟩ := Option.map_eq_some_iff.mp found
      cases same
      obtain ⟨front, rfl, rfl⟩ := ihFirst head
      obtain ⟨back, rfl, rfl⟩ := ihSecond tail
      exact ⟨front ++ back, by simp, by simp [Nat.add_assoc]⟩
  | either first second ihFirst ihSecond =>
    rw [read_either] at found
    split at found
    · next reading head =>
      cases found
      exact ihFirst head
    · exact ihSecond found
  | star body ih =>
    induction length : input.length using Nat.strongRecOn generalizing start input trees stop rest with
    | ind size shorter =>
      rw [read_star] at found
      split at found
      · cases found
        exact ⟨[], rfl, rfl⟩
      · next first middle more head =>
        obtain ⟨front, rfl, rfl⟩ := ih head
        split at found
        · next further =>
          obtain ⟨⟨_, _, _⟩, tail, same⟩ := Option.map_eq_some_iff.mp found
          cases same
          have less : more.length < size := by
            rw [← length, List.length_append]
            omega
          obtain ⟨back, rfl, rfl⟩ := shorter _ less tail rfl
          exact ⟨front ++ back, by simp, by simp [Nat.add_assoc]⟩
        · cases found
          exact ⟨[], rfl, rfl⟩
  | optional body ih =>
    rw [read_optional] at found
    split at found
    · next reading head =>
      cases found
      exact ih head
    · cases found
      exact ⟨[], rfl, rfl⟩
  | hidden body ih =>
    rw [read_hidden] at found
    obtain ⟨⟨_, _, _⟩, inner, same⟩ := Option.map_eq_some_iff.mp found
    cases same
    exact ih inner
  | word body ih =>
    rw [read_word] at found
    obtain ⟨⟨_, _, _⟩, inner, same⟩ := Option.map_eq_some_iff.mp found
    cases same
    exact ih inner
  | named rule body ih =>
    rw [read_named] at found
    obtain ⟨⟨_, _, _⟩, inner, same⟩ := Option.map_eq_some_iff.mp found
    cases same
    exact ih inner

end Expr

/-- An expression takes some characters before a rest, and reads trees from them. -/
def Takes (expr : Expr Rule) (start : Nat) (taken rest : List Char) (trees : List (Tree Rule)) :
    Prop :=
  expr.read start (taken ++ rest) = some (trees, start + taken.length, rest)

/-- An expression has no match in an input. -/
def Refuses (expr : Expr Rule) (start : Nat) (input : List Char) : Prop :=
  expr.read start input = none

variable {start : Nat} {taken rest : List Char} {trees : List (Tree Rule)}

theorem takes_of_read {expr : Expr Rule} {input : List Char} {stop : Nat}
    (found : expr.read start input = some (trees, stop, rest)) :
    ∃ taken, input = taken ++ rest ∧ stop = start + taken.length ∧
      Takes expr start taken rest trees := by
  obtain ⟨taken, rfl, rfl⟩ := expr.read_prefix found
  exact ⟨taken, rfl, rfl, found⟩

/-- What an expression takes from an input is fixed. -/
theorem Takes.unique {expr : Expr Rule} {otherTaken otherRest : List Char}
    {otherTrees : List (Tree Rule)} (takes : Takes expr start taken rest trees)
    (other : Takes expr start otherTaken otherRest otherTrees)
    (same : taken ++ rest = otherTaken ++ otherRest) : trees = otherTrees ∧ rest = otherRest := by
  unfold Takes at takes other
  rw [same, other] at takes
  simp only [Option.some.injEq, Prod.mk.injEq] at takes
  exact ⟨takes.1.symm, takes.2.2.symm⟩

theorem takes_text {chars : List Char} :
    Takes (.text chars) start taken rest trees ↔ taken = chars ∧ trees = [] := by
  unfold Takes
  rw [Expr.read_text]
  constructor
  · intro found
    split at found
    · next begins =>
      obtain ⟨more, same⟩ := List.isPrefixOf_iff_prefix.mp begins
      simp only [Option.some.injEq, Prod.mk.injEq, Nat.add_left_cancel_iff] at found
      obtain ⟨silent, length, _⟩ := found
      exact ⟨(List.append_inj_left same length).symm, silent.symm⟩
    · cases found
  · rintro ⟨rfl, rfl⟩
    simp

theorem takes_one {accepts : Char → Bool} : Takes (.one accepts) start taken rest trees ↔
    ∃ char, accepts char = true ∧ taken = [char] ∧ trees = [] := by
  unfold Takes
  rw [Expr.read_one]
  constructor
  · intro found
    split at found
    · cases found
    · next char more same =>
      split at found
      · next accepted =>
        simp only [Option.some.injEq, Prod.mk.injEq, Nat.add_left_cancel_iff] at found
        obtain ⟨silent, _, rfl⟩ := found
        have split : taken ++ more = [char] ++ more := same
        exact ⟨char, accepted, List.append_cancel_right split, silent.symm⟩
      · cases found
  · rintro ⟨char, accepted, rfl, rfl⟩
    simp [accepted]

theorem takes_many {accepts : Char → Bool} : Takes (.many accepts) start taken rest trees ↔
    (∀ char ∈ taken, accepts char = true) ∧ (∀ char ∈ rest.head?, accepts char = false) ∧
      trees = [] := by
  have found : (.many accepts : Expr Rule).read start (taken ++ rest) =
      some ([], start + ((taken ++ rest).takeWhile accepts).length,
        (taken ++ rest).dropWhile accepts) := rfl
  unfold Takes
  rw [found]
  simp only [Option.some.injEq, Prod.mk.injEq, Nat.add_left_cancel_iff]
  constructor
  · rintro ⟨rfl, length, left⟩
    have parts := List.takeWhile_append_dropWhile (p := accepts) (l := taken ++ rest)
    rw [left] at parts
    have same : (taken ++ rest).takeWhile accepts = taken := List.append_cancel_right parts
    refine ⟨fun char member => ?_, fun char member => ?_, rfl⟩
    · rw [← same] at member
      exact List.all_eq_true.mp List.all_takeWhile char member
    · have stopped := List.head?_dropWhile_not accepts (taken ++ rest)
      rw [left, Option.mem_def.mp member] at stopped
      exact stopped
  · rintro ⟨accepted, stopped, rfl⟩
    have run : rest.takeWhile accepts = [] ∧ rest.dropWhile accepts = rest := by
      cases rest with
      | nil => exact ⟨rfl, rfl⟩
      | cons char more => simp [stopped char rfl]
    rw [List.takeWhile_append_of_pos accepted, List.dropWhile_append_of_pos accepted, run.1, run.2]
    simp

/-- A run of characters is taken from every input, be it empty. -/
theorem exists_takes_many (accepts : Char → Bool) (start : Nat) (input : List Char) :
    ∃ taken rest, input = taken ++ rest ∧
      Takes (.many accepts : Expr Rule) start taken rest [] := by
  have found : (.many accepts : Expr Rule).read start input =
      some ([], start + (input.takeWhile accepts).length, input.dropWhile accepts) := rfl
  obtain ⟨taken, parts, _, takes⟩ := takes_of_read found
  exact ⟨taken, _, parts, takes⟩

theorem takes_wordEnd : Takes .wordEnd start taken rest trees ↔
    taken = [] ∧ (∀ char ∈ rest.head?, Text.isWord char = false) ∧ trees = [] := by
  unfold Takes
  rw [Expr.read_wordEnd]
  constructor
  · intro found
    split at found
    · next empty =>
      obtain ⟨rfl, rfl⟩ := List.append_eq_nil_iff.mp empty
      cases found
      simp
    · next char more same =>
      split at found
      · cases found
      · next ends =>
        simp only [Option.some.injEq, Prod.mk.injEq, Nat.left_eq_add,
          List.length_eq_zero_iff] at found
        obtain ⟨silent, rfl, rfl⟩ := found
        exact ⟨rfl, by simpa using ends, silent.symm⟩
  · rintro ⟨rfl, ends, rfl⟩
    cases rest with
    | nil => rfl
    | cons char more => simp [ends char rfl]

theorem takes_both {first second : Expr Rule} :
    Takes (.both first second) start taken rest trees ↔ ∃ front back left right,
      taken = front ++ back ∧ trees = left ++ right ∧ Takes first start front (back ++ rest) left ∧
        Takes second (start + front.length) back rest right := by
  constructor
  · intro found
    unfold Takes at found
    rw [Expr.read_both] at found
    split at found
    · cases found
    · next left middle more head =>
      obtain ⟨⟨right, _, _⟩, tail, same⟩ := Option.map_eq_some_iff.mp found
      simp only [Prod.mk.injEq] at same
      obtain ⟨rfl, rfl, rfl⟩ := same
      obtain ⟨front, parts, rfl, headTakes⟩ := takes_of_read head
      obtain ⟨back, rfl, _, tailTakes⟩ := takes_of_read tail
      rw [← List.append_assoc] at parts
      exact ⟨front, back, left, right, List.append_cancel_right parts, rfl, headTakes, tailTakes⟩
  · rintro ⟨front, back, left, right, rfl, rfl, head, tail⟩
    unfold Takes at head tail ⊢
    rw [Expr.read_both, List.append_assoc, head]
    simp only [tail, Option.map_some, List.length_append, Nat.add_assoc]

/-- A character of one class and then the longest run of another. -/
theorem takes_run {starts continues : Char → Bool} :
    Takes (.both (.one starts) (.many continues)) start taken rest trees ↔
      ∃ char run, taken = char :: run ∧ starts char = true ∧
        (∀ other ∈ run, continues other = true) ∧ (∀ next ∈ rest.head?, continues next = false) ∧
        trees = [] := by
  rw [takes_both]
  constructor
  · rintro ⟨front, run, left, right, rfl, rfl, first, others⟩
    obtain ⟨char, accepted, rfl, rfl⟩ := takes_one.mp first
    obtain ⟨goesOn, stops, rfl⟩ := takes_many.mp others
    exact ⟨char, run, rfl, accepted, goesOn, stops, rfl⟩
  · rintro ⟨char, run, rfl, accepted, goesOn, stops, rfl⟩
    exact ⟨[char], run, [], [], rfl, rfl, takes_one.mpr ⟨char, accepted, rfl, rfl⟩,
      takes_many.mpr ⟨goesOn, stops, rfl⟩⟩

theorem takes_either {first second : Expr Rule} :
    Takes (.either first second) start taken rest trees ↔ Takes first start taken rest trees ∨
      Refuses first start (taken ++ rest) ∧ Takes second start taken rest trees := by
  unfold Takes Refuses
  rw [Expr.read_either]
  cases first.read start (taken ++ rest) with
  | none => simp
  | some reading => simp

theorem takes_optional {body : Expr Rule} :
    Takes (.optional body) start taken rest trees ↔ Takes body start taken rest trees ∨
      Refuses body start (taken ++ rest) ∧ taken = [] ∧ trees = [] := by
  unfold Takes Refuses
  rw [Expr.read_optional]
  cases body.read start (taken ++ rest) with
  | none =>
    simp only [Option.some.injEq, Prod.mk.injEq, Nat.left_eq_add, List.length_eq_zero_iff,
      reduceCtorEq, false_or, true_and]
    constructor
    · rintro ⟨silent, empty, _⟩
      exact ⟨empty, silent.symm⟩
    · rintro ⟨rfl, rfl⟩
      simp
  | some reading => simp

theorem takes_hidden {body : Expr Rule} : Takes (.hidden body) start taken rest trees ↔
    trees = [] ∧ ∃ inner, Takes body start taken rest inner := by
  unfold Takes
  rw [Expr.read_hidden]
  cases body.read start (taken ++ rest) with
  | none => simp
  | some reading =>
    obtain ⟨inner, stop, more⟩ := reading
    simp [eq_comm]

theorem takes_word {body : Expr Rule} : Takes (.word body) start taken rest trees ↔
    trees = [.word taken] ∧ ∃ inner, Takes body start taken rest inner := by
  unfold Takes
  rw [Expr.read_word]
  cases body.read start (taken ++ rest) with
  | none => simp
  | some reading =>
    obtain ⟨inner, stop, more⟩ := reading
    simp only [Option.map_some, Option.some.injEq, Prod.mk.injEq]
    constructor
    · rintro ⟨rfl, rfl, rfl⟩
      simp
    · rintro ⟨rfl, _, _, rfl, rfl⟩
      simp

theorem takes_named {rule : Rule} {body : Expr Rule} :
    Takes (.named rule body) start taken rest trees ↔
      ∃ inner, trees = [.node rule start (start + taken.length) inner] ∧
        Takes body start taken rest inner := by
  unfold Takes
  rw [Expr.read_named]
  cases body.read start (taken ++ rest) with
  | none => simp
  | some reading =>
    obtain ⟨inner, stop, more⟩ := reading
    simp only [Option.map_some, Option.some.injEq, Prod.mk.injEq]
    constructor
    · rintro ⟨rfl, rfl, rfl⟩
      exact ⟨inner, rfl, rfl, rfl, rfl⟩
    · rintro ⟨_, rfl, rfl, rfl, rfl⟩
      exact ⟨rfl, rfl, rfl⟩

/-- A repetition takes something with its body and goes on, or its body takes nothing any more. -/
theorem takes_star {body : Expr Rule} : Takes (.star body) start taken rest trees ↔
    (∃ front back left right, front ≠ [] ∧ taken = front ++ back ∧ trees = left ++ right ∧
      Takes body start front (back ++ rest) left ∧
        Takes (.star body) (start + front.length) back rest right) ∨
    taken = [] ∧ trees = [] ∧ ∀ front back left, front ≠ [] → rest = front ++ back →
      ¬ Takes body start front back left := by
  constructor
  · intro found
    unfold Takes at found
    rw [Expr.read_star] at found
    split at found
    · next refused =>
      simp only [Option.some.injEq, Prod.mk.injEq, Nat.left_eq_add, List.length_eq_zero_iff] at found
      obtain ⟨silent, rfl, _⟩ := found
      refine .inr ⟨rfl, silent.symm, fun front back left _ parts takes => ?_⟩
      unfold Takes at takes
      rw [← parts] at takes
      rw [List.nil_append, takes] at refused
      cases refused
    · next left middle more head =>
      obtain ⟨front, parts, rfl, headTakes⟩ := takes_of_read head
      split at found
      · next further =>
        obtain ⟨⟨right, _, _⟩, tail, same⟩ := Option.map_eq_some_iff.mp found
        simp only [Prod.mk.injEq] at same
        obtain ⟨rfl, rfl, rfl⟩ := same
        obtain ⟨back, rfl, _, tailTakes⟩ := takes_of_read tail
        rw [← List.append_assoc] at parts
        have some : front ≠ [] := fun empty => by simp [empty] at further
        exact .inl ⟨front, back, left, right, some, List.append_cancel_right parts, rfl, headTakes,
          tailTakes⟩
      · next halt =>
        simp only [Option.some.injEq, Prod.mk.injEq, Nat.left_eq_add,
          List.length_eq_zero_iff] at found
        obtain ⟨silent, rfl, _⟩ := found
        have nothing : front = [] := by
          refine List.length_eq_zero_iff.mp ?_
          omega
        subst nothing
        refine .inr ⟨rfl, silent.symm, fun other back others some split takes => ?_⟩
        obtain rfl : more = rest := parts.symm
        obtain ⟨_, same⟩ := headTakes.unique takes split
        rw [same] at split
        exact some (List.append_left_eq_self.mp split.symm)
  · rintro (⟨front, back, left, right, some, rfl, rfl, head, tail⟩ | ⟨rfl, rfl, silent⟩)
    · unfold Takes at head tail ⊢
      rw [Expr.read_star, List.append_assoc, head]
      have further : start < start + front.length := by
        have positive := List.length_pos_iff.mpr some
        omega
      simp only [further, if_true, tail, Option.map_some, List.length_append, Nat.add_assoc]
    · unfold Takes
      rw [Expr.read_star]
      split
      · rfl
      · next left middle more head =>
        obtain ⟨front, parts, rfl, headTakes⟩ := takes_of_read head
        have nothing : ¬ start < start + front.length := by
          intro further
          have some : front ≠ [] := fun empty => by simp [empty] at further
          exact silent front more left some parts headTakes
        simp [nothing]

/-- What holds where a repetition stops, and of each further match once it holds of what follows, holds of
all that a repetition takes. -/
theorem star_induction {body : Expr Rule} {motive : Nat → List Char → List (Tree Rule) → Prop}
    (done : ∀ start, (∀ front back left, front ≠ [] → rest = front ++ back →
      ¬ Takes body start front back left) → motive start [] [])
    (step : ∀ start front back left right, front ≠ [] → Takes body start front (back ++ rest) left →
      motive (start + front.length) back right → motive start (front ++ back) (left ++ right))
    (takes : Takes (.star body) start taken rest trees) : motive start taken trees := by
  induction length : taken.length using Nat.strongRecOn generalizing start taken trees with
  | ind size shorter =>
    rcases takes_star.mp takes with ⟨front, back, left, right, some, rfl, rfl, head, tail⟩ |
      ⟨rfl, rfl, stops⟩
    · have less : back.length < size := by
        have positive := List.length_pos_iff.mpr some
        rw [← length, List.length_append]
        omega
      exact step start front back left right some head (shorter back.length less tail rfl)
    · exact done start stops

theorem takes_both_assoc {first second third : Expr Rule} :
    Takes (.both first (.both second third)) start taken rest trees ↔
      Takes (.both (.both first second) third) start taken rest trees := by
  simp only [takes_both]
  constructor
  · rintro ⟨front, _, left, _, rfl, rfl, head, middle, back, inner, right, rfl, rfl, second, tail⟩
    refine ⟨front ++ middle, back, left ++ inner, right, by simp, by simp,
      ⟨front, middle, left, inner, rfl, rfl, by simpa using head, second⟩, ?_⟩
    simpa [Nat.add_assoc] using tail
  · rintro ⟨_, back, _, right, rfl, rfl, ⟨front, middle, left, inner, rfl, rfl, head, second⟩, tail⟩
    refine ⟨front, middle ++ back, left, inner ++ right, by simp, by simp, by simpa using head,
      middle, back, inner, right, rfl, rfl, second, ?_⟩
    simpa [Nat.add_assoc] using tail

/-- Whether an expression may match where a character follows, or nothing. -/
def Expr.begins : Expr Rule → Option Char → Bool
  | .text [], _ => true
  | .text (char :: _), next => next == some char
  | .one accepts, next => next.any accepts
  | .both first _, next => first.begins next
  | .either first second, next => first.begins next || second.begins next
  | .hidden body, next => body.begins next
  | .word body, next => body.begins next
  | .named _ body, next => body.begins next
  | _, _ => true

theorem begins_of_read {expr : Expr Rule} {input : List Char} {reading : Reading Rule}
    (found : expr.read start input = some reading) : expr.begins input.head? = true := by
  induction expr generalizing start reading with
  | text chars =>
    rw [Expr.read_text] at found
    split at found
    · next begins =>
      cases chars with
      | nil => rfl
      | cons char more =>
        obtain ⟨rest, rfl⟩ := List.isPrefixOf_iff_prefix.mp begins
        simp [Expr.begins]
    · cases found
  | one accepts =>
    rw [Expr.read_one] at found
    split at found
    · cases found
    · split at found
      · next accepted => simpa [Expr.begins] using accepted
      · cases found
  | both first second ih _ =>
    rw [Expr.read_both] at found
    split at found
    · cases found
    · next head => exact ih head
  | either first second ihFirst ihSecond =>
    rw [Expr.read_either] at found
    rw [Expr.begins, Bool.or_eq_true]
    split at found
    · next head => exact .inl (ihFirst head)
    · exact .inr (ihSecond found)
  | hidden body ih =>
    rw [Expr.read_hidden] at found
    obtain ⟨_, inner, _⟩ := Option.map_eq_some_iff.mp found
    exact ih inner
  | word body ih =>
    rw [Expr.read_word] at found
    obtain ⟨_, inner, _⟩ := Option.map_eq_some_iff.mp found
    exact ih inner
  | named rule body ih =>
    rw [Expr.read_named] at found
    obtain ⟨_, inner, _⟩ := Option.map_eq_some_iff.mp found
    exact ih inner
  | many _ => rfl
  | wordEnd => rfl
  | star _ _ => rfl
  | optional _ _ => rfl

/-- An expression refuses an input that starts with none of its first characters. -/
theorem refuses_of_begins {expr : Expr Rule} {input : List Char}
    (apart : expr.begins input.head? = false) : Refuses expr start input := by
  cases found : expr.read start input with
  | none => exact found
  | some reading =>
    rw [begins_of_read found] at apart
    cases apart

/-- A repetition takes nothing where its body cannot begin. -/
theorem takes_star_nil {body : Expr Rule} (apart : body.begins rest.head? = false) :
    Takes (.star body) start [] rest [] := by
  refine takes_star.mpr (.inr ⟨rfl, rfl, fun front back left _ parts takes => ?_⟩)
  have refused : Refuses body start rest := refuses_of_begins apart
  unfold Takes at takes
  rw [← parts, refused] at takes
  cases takes

section Words
variable [DecidableEq Rule] {wanted : Rule}

/-- Whether a rule is named in an expression. -/
def Expr.mentions (wanted : Rule) : Expr Rule → Bool
  | .both first second => first.mentions wanted || second.mentions wanted
  | .either first second => first.mentions wanted || second.mentions wanted
  | .star body => body.mentions wanted
  | .optional body => body.mentions wanted
  | .named rule body => rule == wanted || body.mentions wanted
  | _ => false

theorem wordsOfAll_append (wanted : Rule) (left right : List (Tree Rule)) :
    wordsOfAll wanted (left ++ right) = wordsOfAll wanted left ++ wordsOfAll wanted right := by
  induction left with
  | nil => rfl
  | cons tree left ih => rw [List.cons_append, wordsOfAll, wordsOfAll, ih, List.append_assoc]

/-- No words are read below a rule that an expression does not name. -/
theorem wordsOfAll_of_takes {expr : Expr Rule} (absent : expr.mentions wanted = false)
    (takes : Takes expr start taken rest trees) : wordsOfAll wanted trees = [] := by
  induction expr generalizing start taken rest trees with
  | text chars =>
    obtain ⟨_, rfl⟩ := takes_text.mp takes
    rfl
  | one accepts =>
    obtain ⟨_, _, _, rfl⟩ := takes_one.mp takes
    rfl
  | many accepts =>
    obtain ⟨_, _, rfl⟩ := takes_many.mp takes
    rfl
  | wordEnd =>
    obtain ⟨_, _, rfl⟩ := takes_wordEnd.mp takes
    rfl
  | both first second ihFirst ihSecond =>
    obtain ⟨absentFirst, absentSecond⟩ := Bool.or_eq_false_iff.mp absent
    obtain ⟨_, _, _, _, _, rfl, head, tail⟩ := takes_both.mp takes
    rw [wordsOfAll_append, ihFirst absentFirst head, ihSecond absentSecond tail]
    rfl
  | either first second ihFirst ihSecond =>
    obtain ⟨absentFirst, absentSecond⟩ := Bool.or_eq_false_iff.mp absent
    rcases takes_either.mp takes with head | ⟨_, tail⟩
    · exact ihFirst absentFirst head
    · exact ihSecond absentSecond tail
  | star body ih =>
    refine star_induction (motive := fun _ _ trees => wordsOfAll wanted trees = [])
      (fun _ _ => rfl) (fun _ _ _ _ _ _ head later => ?_) takes
    rw [wordsOfAll_append, ih absent head, later]
    rfl
  | optional body ih =>
    rcases takes_optional.mp takes with inner | ⟨_, _, rfl⟩
    · exact ih absent inner
    · rfl
  | hidden body ih =>
    obtain ⟨rfl, _⟩ := takes_hidden.mp takes
    rfl
  | word body ih =>
    obtain ⟨rfl, _⟩ := takes_word.mp takes
    rfl
  | named rule body ih =>
    obtain ⟨other, absentBody⟩ := Bool.or_eq_false_iff.mp absent
    obtain ⟨inner, rfl, below⟩ := takes_named.mp takes
    simp only [wordsOfAll, Tree.wordsOf, ih absentBody below, List.append_nil]
    rw [if_neg (by simpa using other)]

end Words

end SchemeTyping.Peg
