import SchemeTyping.Proofs.AnalysisUnit.Locality
import SchemeTyping.Proofs.Peg.Moving

/-! Slices: what a rule matches somewhere in a text it matches in full where these characters stand alone,
with the same tree and the same trace. -/
namespace SchemeTyping.AnalysisUnit
open Peg Grammar
variable {rule : Rule} {text taken rest : List Char} {start : Nat} {found : Found}

/-- What is found further on in a text. -/
def Found.move (distance : Nat) (found : Found) : Found :=
  ⟨found.tree.move distance, found.stop + distance⟩

/-- The trace of a match of a rule from an offset on, and where the match stops. -/
def Rule.traceFrom (rule : Rule) (text : List Char) (start : Nat) :
    Option (Peg.Tree (Option Rule) × Nat) :=
  match rule.expr.traced.read start (text.drop start) with
  | some ([trace], stop, _) => some (trace, stop)
  | _ => none

/-- What a reading finds if it reads one tree. -/
def Found.ofReading? : Reading Rule → Option Found
  | ([tree], stop, _) => some ⟨tree, stop⟩
  | _ => none

theorem matchFrom_eq (rule : Rule) (text : List Char) (start : Nat) :
    rule.matchFrom text start = (rule.expr.read start (text.drop start)).bind Found.ofReading? := by
  unfold Rule.matchFrom Peg.Expr.read
  cases rule.expr.run start (text.drop start) with
  | none => rfl
  | some found =>
    obtain ⟨trees, stop, rest, taken⟩ := found
    match trees with
    | [] => rfl
    | [tree] => rfl
    | first :: second :: more => rfl

theorem ofReading?_moveReading (distance : Nat) (reading : Reading Rule) :
    Found.ofReading? (Expr.moveReading distance reading) =
      (Found.ofReading? reading).map (Found.move distance) := by
  obtain ⟨trees, stop, rest⟩ := reading
  match trees with
  | [] => rfl
  | [tree] => rfl
  | first :: second :: more => rfl

/-- The characters before the start of a match only move it. -/
theorem matchFrom_drop (rule : Rule) (text : List Char) (start : Nat) :
    rule.matchFrom text start = (rule.matchFrom (text.drop start) 0).map (Found.move start) := by
  rw [matchFrom_eq, matchFrom_eq, List.drop_zero]
  conv_lhs => rw [← Nat.zero_add start, rule.expr.read_move, Nat.zero_add]
  rw [Option.bind_map, Option.map_bind]
  exact congrArg _ (funext (ofReading?_moveReading start))

/-- What is found is the tree of the characters that are taken. -/
theorem takes_of_matchFrom (matched : rule.matchFrom text start = some found) :
    ∃ taken rest, text.drop start = taken ++ rest ∧ found.stop = start + taken.length ∧
      Takes rule.expr start taken rest [found.tree] := by
  rw [matchFrom_eq] at matched
  obtain ⟨⟨trees, stop, rest⟩, read, single⟩ := Option.bind_eq_some_iff.mp matched
  match trees with
  | [] => cases single
  | [tree] =>
    cases single
    obtain ⟨taken, parts, stops, takes⟩ := takes_of_read read
    exact ⟨taken, rest, parts, stops, takes⟩
  | first :: second :: more => cases single

theorem traceFrom_of_takes {trace : Peg.Tree (Option Rule)} (parts : text.drop start = taken ++ rest)
    (takes : Takes rule.expr.traced start taken rest [trace]) :
    rule.traceFrom text start = some (trace, start + taken.length) := by
  unfold Takes at takes
  rw [Rule.traceFrom, parts, takes]

/-- A match of a rule has one trace. -/
theorem exists_trace {tree : Tree} (takes : Takes rule.expr start taken rest [tree]) :
    ∃ trace, Takes rule.expr.traced start taken rest [trace] := by
  obtain ⟨traces, traced⟩ := exists_takes_traced_iff.mpr ⟨_, takes⟩
  obtain ⟨label, body, named⟩ := rule.expr.exists_traced_eq_named
  rw [named] at traced ⊢
  obtain ⟨inner, rfl, _⟩ := takes_named.mp traced
  exact ⟨_, traced⟩

/-- A match is local: a rule matches the characters that it takes in full where they stand alone, with the
same tree and the same trace, all places in which are as much smaller as the match starts further on. What
stands before the start of a match only moves it, and does not decide whether there is one. -/
theorem match_of_slice (rule : Rule) (text : List Char) (start : Nat) :
    (∀ found, rule.matchFrom text start = some found → ∃ slice tree trace,
      slice = (text.drop start).take (found.stop - start) ∧
      rule.matchAll slice 0 = .ok tree ∧ found.tree = tree.move start ∧
      rule.traceFrom slice 0 = some (trace, slice.length) ∧
      rule.traceFrom text start = some (trace.move start, found.stop)) ∧
    rule.matchFrom text start = (rule.matchFrom (text.drop start) 0).map (Found.move start) := by
  refine ⟨fun found matched => ?_, matchFrom_drop rule text start⟩
  rw [matchFrom_drop] at matched
  obtain ⟨alone, first, rfl⟩ := Option.map_eq_some_iff.mp matched
  obtain ⟨taken, rest, parts, stops, takes⟩ := takes_of_matchFrom first
  obtain ⟨trace, traced⟩ := exists_trace takes
  obtain ⟨allowed, isLocal⟩ := exists_local rule
  rw [List.drop_zero] at parts
  rw [Nat.zero_add] at stops
  have slice : taken = (text.drop start).take ((alone.move start).stop - start) := by
    have length : (alone.move start).stop - start = taken.length := by
      rw [← stops]
      exact Nat.add_sub_cancel _ _
    rw [length, parts, List.take_left]
  have whole : rule.traceFrom taken 0 = some (trace, taken.length) := by
    have bare : taken.drop 0 = taken ++ [] := (List.append_nil taken).symm
    rw [traceFrom_of_takes bare (isLocal.traced.cut traced), Nat.zero_add]
  have moved : rule.traceFrom text start = some (trace.move start, alone.stop + start) := by
    have further : Takes rule.expr.traced (0 + start) taken rest [trace.move start] := takes_move traced
    rw [Nat.zero_add] at further
    rw [traceFrom_of_takes parts further, stops, Nat.add_comm]
  exact ⟨taken, alone.tree, trace, slice, matchAll_eq_ok.mpr (isLocal.cut takes), rfl, whole, moved⟩

/-- An identifier between other tokens, with a comment in the layout behind it. -/
def remarked : List Char := "ref a.b# one\n: other \x7b\x7d;".toList

theorem match_of_slice_remarked : ∃ found tree, Rule.identifier.matchFrom remarked 4 = some found ∧
    found.stop = 13 ∧ Rule.identifier.matchAll "a.b# one\n".toList 0 = .ok tree ∧
    found.tree = tree.move 4 := by
  have stops : (Rule.identifier.matchFrom remarked 4).map Found.stop = some 13 := by decide +kernel
  obtain ⟨found, matched, stop⟩ := Option.map_eq_some_iff.mp stops
  obtain ⟨slice, tree, _, parts, whole, moved, _⟩ := (match_of_slice .identifier remarked 4).1 found matched
  have short : slice = "a.b# one\n".toList := by
    rw [parts, stop]
    decide
  exact ⟨found, tree, matched, stop, short ▸ whole, moved⟩

end SchemeTyping.AnalysisUnit
