import SchemeTyping.AnalysisUnit.Loading
import SchemeTyping.Proofs.AnalysisUnit.Locality
import SchemeTyping.Proofs.Text.Span

/-! Unexpected input: it begins where the longest beginning of the text ends that is matched in full. -/
namespace SchemeTyping.AnalysisUnit
open Peg Grammar
variable {text : List Char}

/-- Some beginning of every text is a unit: layout and items may be missing. -/
theorem exists_takes_unit (text : List Char) :
    ∃ taken rest tree, text = taken ++ rest ∧ Takes Grammar.unit 0 taken rest [tree] := by
  obtain ⟨lead, behind, silent, rfl, first⟩ :=
    exists_takes_star (.either (.both (.one Text.isBlank) (.many Text.isBlank)) comment) 0 text
  obtain ⟨body, rest, trees, rfl, second⟩ := exists_takes_star item (0 + lead.length) behind
  have opened : Takes layout 0 lead (body ++ rest) [] := takes_hidden.mpr ⟨rfl, silent, first⟩
  exact ⟨lead ++ body, rest, _, (List.append_assoc ..).symm, takes_named.mpr ⟨[] ++ trees, rfl,
    takes_both.mpr ⟨lead, body, [], trees, rfl, rfl, opened, second⟩⟩⟩

/-- A unit lasts: its last item or its layout may grow, and items may come behind it. -/
theorem lasting_unit : Lasting Grammar.unit := by
  refine Lasting.named fun start taken trees takes more => ?_
  obtain ⟨lead, body, left, right, rfl, rfl, first, second⟩ := takes_both.mp takes
  cases body with
  | nil =>
    rw [List.append_nil] at first
    obtain ⟨further, behind, trees, rfl, longer⟩ := lasting_layout first more
    obtain ⟨items, rest, others, rfl, goesOn⟩ :=
      exists_takes_star item (start + (lead ++ further).length) behind
    refine ⟨further ++ items, rest, trees ++ others, (List.append_assoc ..).symm, ?_⟩
    exact takes_both.mpr ⟨lead ++ further, items, trees, others, by simp, rfl, longer, goesOn⟩
  | cons char body =>
    obtain ⟨further, rest, others, rfl, longer⟩ :=
      Lasting.star sealed_item.toLocal sealed_item.lasts second more
    have same : (char :: body ++ further ++ rest).head? = (char :: body ++ []).head? := rfl
    refine ⟨further, rest, left ++ others, rfl, takes_both.mpr
      ⟨lead, char :: body ++ further, left, others, by simp, rfl, ?_, longer⟩⟩
    exact local_layout.steady first trivial same

/-- A rule that takes a beginning of a text and not all of it leaves off behind that beginning. -/
theorem matchAll_of_takes {rule : Rule} {taken rest : List Char} {tree : Tree}
    (takes : Takes rule.expr 0 taken rest [tree]) (more : rest ≠ []) :
    rule.matchAll (taken ++ rest) 0 = .error (.incomplete taken.length) := by
  have shorter : taken.length < (taken ++ rest).length := by
    rw [List.length_append]
    exact Nat.lt_add_of_pos_right (List.length_pos_iff.mpr more)
  have input : taken ++ rest = (taken ++ rest).drop 0 := rfl
  unfold Takes at takes
  rw [input] at takes
  unfold Peg.Expr.read at takes
  unfold Rule.matchAll Rule.matchFrom
  cases run : rule.expr.run 0 ((taken ++ rest).drop 0) with
  | none =>
    rw [run] at takes
    cases takes
  | some found =>
    obtain ⟨trees, stop, behind, parts⟩ := found
    rw [run, Nat.zero_add] at takes
    obtain ⟨rfl, rfl, _⟩ : trees = [tree] ∧ stop = taken.length ∧ behind = rest := by
      simpa [Match.reading] using takes
    exact if_pos shorter

/-- No longer beginning of a text than the one that is taken is matched in full. -/
theorem length_le_of_matchAll {taken rest : List Char} {tree other : Tree} {stop : Nat}
    (takes : Takes Grammar.unit 0 taken rest [tree]) (inside : stop ≤ (taken ++ rest).length)
    (found : Rule.unit.matchAll ((taken ++ rest).take stop) 0 = .ok other) : stop ≤ taken.length := by
  obtain ⟨further, behind, _, parts, longer⟩ :=
    lasting_unit (matchAll_eq_ok.mp found) ((taken ++ rest).drop stop)
  have whole : (taken ++ rest).take stop ++ further ++ behind = taken ++ rest := by
    rw [List.append_assoc, ← parts, List.take_append_drop]
  obtain ⟨_, rfl⟩ := longer.unique takes whole
  have same := List.append_cancel_right whole
  rw [← same, List.length_append, List.length_take_of_le inside]
  exact Nat.le_add_right ..

/-- The excerpt of unexpected input and the place where it begins. -/
def unexpectedInput (text : List Char) (offset : Nat) (span : Span) : Diagnostic :=
  let got := (text.drop offset).take 20
  ⟨.text (String.ofList got), "unexpected input " ++ Text.quoted got, .incompleteParse, span, ""⟩

/-- A text that is not matched in full is refused behind the longest beginning that is: there begins the
excerpt, and there is the place that the diagnostic names. -/
theorem unexpected_behind_longest (text : List Char) (source : String)
    (unmatched : ∀ tree, Rule.unit.matchAll text 0 ≠ .ok tree) :
    ∃ offset span fault, offset < text.length ∧
      parse text = .error (.unexpected offset) ∧
      declarations text source = .error fault ∧
      fault.diagnostic? = some (unexpectedInput text offset span) ∧
      span.Behind (text.take offset) source ∧
      (∃ tree, Rule.unit.matchAll (text.take offset) 0 = .ok tree) ∧
      ∀ stop, offset < stop → stop ≤ text.length →
        ∀ tree, Rule.unit.matchAll (text.take stop) 0 ≠ .ok tree := by
  obtain ⟨taken, rest, tree, rfl, takes⟩ := exists_takes_unit text
  have more : rest ≠ [] := by
    rintro rfl
    rw [List.append_nil] at unmatched
    exact unmatched tree (matchAll_eq_ok.mpr takes)
  have inside : taken.length < (taken ++ rest).length := by
    rw [List.length_append]
    exact Nat.lt_add_of_pos_right (List.length_pos_iff.mpr more)
  have failed : parse (taken ++ rest) = .error (.unexpected taken.length) := by
    have incomplete : Rule.unit.matchAll (taken ++ rest) 0 = .error (.incomplete taken.length) :=
      matchAll_of_takes takes more
    unfold parse
    rw [incomplete]
  have refused : declarations (taken ++ rest) source =
      .error (ParseFault.locate (taken ++ rest) source (.unexpected taken.length)) := by
    rw [AnalysisUnit.declarations, failed]
    rfl
  refine ⟨taken.length, _, _, inside, failed, refused, rfl, Span.behind_ofOffset (Nat.le_of_lt inside),
    ⟨tree, ?_⟩, fun stop longer within other found => ?_⟩
  · rw [List.take_left]
    exact matchAll_eq_ok.mpr (local_unit.cut takes)
  · exact Nat.not_lt.mpr (length_le_of_matchAll takes within found) longer

/-- A second item that breaks off behind its identifier. -/
def unfinished : List Char := "ref a: other \x7b\x7d; # one\nref b".toList

theorem unexpected_behind_longest_unfinished :
    (∀ tree, Rule.unit.matchAll unfinished 0 ≠ .ok tree) ∧
      parse unfinished = .error (.unexpected 23) ∧
      ∀ stop, 23 < stop → stop ≤ unfinished.length →
        ∀ tree, Rule.unit.matchAll (unfinished.take stop) 0 ≠ .ok tree := by
  have unmatched : ∀ tree, Rule.unit.matchAll unfinished 0 ≠ .ok tree := by
    intro tree found
    have none : (Rule.unit.matchAll unfinished 0).toOption.isSome = false := by decide +kernel
    rw [found] at none
    cases none
  obtain ⟨offset, _, _, _, failed, _, _, _, _, longest⟩ :=
    unexpected_behind_longest unfinished "unfinished" unmatched
  have evaluated : (parse unfinished).map (fun _ => ()) = .error (.unexpected 23) := by decide +kernel
  have told := Outcome.map_eq_error.mp evaluated
  rw [failed] at told
  cases told
  exact ⟨unmatched, failed, longest⟩

end SchemeTyping.AnalysisUnit
