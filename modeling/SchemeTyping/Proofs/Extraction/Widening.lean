import Mathlib
import SchemeTyping.Hierarchy.Schemes
import SchemeTyping.Proofs.Extraction.Collection
import SchemeTyping.Proofs.Extraction.Conversions
import SchemeTyping.Proofs.Hierarchy.Reachability

/-! The same pass under a hierarchy with more edges. Edges say only which qualifiers subsume which: the
choice of a qualifier and the conversion rule go by the ranking and the baseline. So more edges can do
nothing but satisfy constraints that were not satisfied before. -/
namespace SchemeTyping

namespace Hierarchy
variable {wider narrower : Hierarchy} {lower upper : String}

/-- One hierarchy has the ranking and the baseline of another one, and all of its edges. -/
structure Extends (wider narrower : Hierarchy) : Prop where
  names : wider.names = narrower.names
  baseline : wider.baseline.name = narrower.baseline.name
  edges : narrower.edges ⊆ wider.edges

/-- A subtype stays one, and the test answers between the same names. -/
theorem Extends.isSubtype (extension : wider.Extends narrower) {answer : Bool}
    (answered : narrower.isSubtype lower upper = .ok answer) :
    ∃ later, wider.isSubtype lower upper = .ok later ∧ (answer = true → later = true) := by
  obtain ⟨upperRanked, lowerRanked, rfl⟩ := isSubtype_eq_ok answered
  rw [← extension.names] at upperRanked lowerRanked
  obtain ⟨first, memberFirst, rfl⟩ := List.mem_map.mp upperRanked
  obtain ⟨second, memberSecond, rfl⟩ := List.mem_map.mp lowerRanked
  refine ⟨_, isSubtype_eq memberSecond memberFirst, ?_⟩
  simp only [decide_eq_true_eq]
  exact Path.mono extension.edges

/-- The choice among candidates goes by the ranking alone. -/
theorem maximal_of_names (same : wider.names = narrower.names) (qualifiers : List Qualifier) :
    wider.maximal qualifiers = narrower.maximal qualifiers := by
  have rank : wider.rank? = narrower.rank? := by
    unfold rank?
    rw [same]
  have orZero : wider.rankOrZero = narrower.rankOrZero := by
    unfold rankOrZero
    rw [rank]
  have ranked : wider.isRanked = narrower.isRanked := by
    unfold isRanked
    rw [rank]
  unfold maximal sort unranked?
  rw [orZero, ranked]

theorem assignAll_of_names (same : wider.names = narrower.names) (typing : Typing)
    (references : List Reference) :
    wider.assignAll typing references = narrower.assignAll typing references := by
  induction references generalizing typing with
  | nil => rfl
  | cons reference rest ih =>
    have first : wider.assign typing reference = narrower.assign typing reference := by
      unfold assign
      rw [maximal_of_names same]
    unfold assignAll
    rw [first]
    split
    · rfl
    · exact ih _

end Hierarchy

/-- What is found later agrees with what was found before, except that the constraint may be satisfied. -/
structure Finding.Eases (later earlier : Finding) : Prop where
  unjudged : later.unjudged = earlier.unjudged
  verdict : later.verdict = earlier.verdict ∨ later.verdict = .satisfied

namespace Finding

/-- Verdicts have no say in what is reported. -/
theorem lines_reported_congr {first second : List Finding}
    (alike : first.map unjudged = second.map unjudged) (ledger : Ledger) :
    (reported ledger first).flatMap lines = (reported ledger second).flatMap lines := by
  have blind (findings : List Finding) : (reported ledger findings).flatMap lines =
      (reported ledger (findings.map unjudged)).flatMap lines := by
    rw [reported_map unjudged (fun _ => rfl) (fun _ => rfl) rfl, List.flatMap_map]
    rfl
  rw [blind, alike, ← blind]

theorem Eases.constraint {later earlier : Finding} (eases : later.Eases earlier) :
    later.constraint = earlier.constraint := by
  have same : later.unjudged.constraint = earlier.unjudged.constraint := by rw [eases.unjudged]
  exact same

theorem Eases.isViolation {later earlier : Finding} (eases : later.Eases earlier)
    (violated : later.verdict.isViolation = true) : earlier.verdict.isViolation = true := by
  rcases eases.verdict with same | satisfied
  · rw [← same]
    exact violated
  · rw [satisfied] at violated
    cases violated

/-- What is found later blames no constraint that was not blamed before. -/
theorem violations_sublist {later earlier : List Finding} (eases : List.Forall₂ Eases later earlier) :
    ((later.filter fun finding => finding.verdict.isViolation).map Finding.constraint).Sublist
      ((earlier.filter fun finding => finding.verdict.isViolation).map Finding.constraint) := by
  induction eases with
  | nil => exact .slnil
  | @cons first second rest others own _ ih =>
    by_cases violated : first.verdict.isViolation = true
    · rw [List.filter_cons, if_pos violated, List.filter_cons, if_pos (own.isViolation violated),
        List.map_cons, List.map_cons, own.constraint]
      exact ih.cons_cons _
    · rw [List.filter_cons, if_neg violated]
      apply ih.trans
      exact ((List.sublist_cons_self second others).filter _).map _

end Finding

namespace Setting
variable {setting : Setting} {wider : Hierarchy} {constraint : Constraint}

section
variable (extension : wider.Extends setting.hierarchy)
include extension

theorem judge_extends {lower upper : Qualifier} {verdict : Verdict}
    (judged : setting.judge constraint lower upper = .ok verdict) :
    ∃ later, { setting with hierarchy := wider }.judge constraint lower upper = .ok later ∧
      (later = verdict ∨ later = .satisfied) := by
  unfold judge at judged ⊢
  split at judged
  · cases judged
  -- A test that held still does; one that did not may hold now.
  · next holds =>
    obtain ⟨later, answered, keeps⟩ := extension.isSubtype holds
    obtain rfl := keeps rfl
    simp only [answered]
    exact ⟨_, rfl, .inr rfl⟩
  · next fails =>
    obtain ⟨later, answered, _⟩ := extension.isSubtype fails
    simp only [answered]
    cases later with
    | true => exact ⟨_, rfl, .inr rfl⟩
    | false => exact ⟨verdict, judged, .inl rfl⟩

/-- The conversion rule asks for the baseline only by its name. -/
theorem requirementOn_extends (left right : Reference) :
    { setting with hierarchy := wider }.requirementOn constraint left right =
      setting.requirementOn constraint left right := by
  have starts : { setting with hierarchy := wider }.startsAtBaseline left right =
      setting.startsAtBaseline left right := by
    have agrees (scheme : Qualifier) :
        scheme.Agrees wider.baseline ↔ scheme.Agrees setting.hierarchy.baseline := by
      unfold Qualifier.Agrees
      rw [extension.baseline]
    unfold startsAtBaseline
    simp only [agrees]
    rfl
  unfold requirementOn
  rw [starts]
  rfl

theorem examine_extends {finding : Finding} (examined : setting.examine constraint = .ok finding) :
    ∃ later, { setting with hierarchy := wider }.examine constraint = .ok later ∧
      later.Eases finding := by
  obtain ⟨later, reexamined, eases⟩ := examine_related setting { setting with hierarchy := wider }
    (fun later earlier => later = earlier ∨ later = .satisfied) rfl rfl
    (requirementOn_extends extension) (.inl rfl)
    (fun _ _ _ judged => judge_extends extension judged) examined
  exact ⟨_, reexamined, rfl, eases⟩

end

/-- More edges only remove violations. A pass that completes under a hierarchy completes as well under one
with the same ranking and baseline and all of its edges. It resolves every reference as before, it leaves
the same ledger and writes the same diagnostics, and its violations are some of those before, in the same
order. -/
theorem extract_extends {constraints : List Constraint} {ledger : Ledger} {extraction : Extraction}
    (extension : wider.Extends setting.hierarchy)
    (completed : (setting.extract constraints ledger).result = .ok extraction) :
    let pass := { setting with hierarchy := wider }.extract constraints ledger
    ∃ result, pass.result = .ok result ∧
      result.violations.Sublist extraction.violations ∧
      result.ledger = extraction.ledger ∧ result.diagnostics = extraction.diagnostics ∧
      result.considered = extraction.considered ∧ result.checked = extraction.checked ∧
      pass.typing = (setting.extract constraints ledger).typing ∧
      pass.ledger = (setting.extract constraints ledger).ledger ∧
      pass.written = (setting.extract constraints ledger).written := by
  obtain ⟨after, findings, assigned, surveyed, rfl⟩ := extract_eq_ok completed
  have reassigned : wider.assignAll setting.typing setting.store.references = (after, none) :=
    (Hierarchy.assignAll_of_names extension.names _ _).trans assigned
  obtain ⟨others, resurveyed, eases⟩ :
      ∃ others, { setting with hierarchy := wider, typing := after }.survey constraints =
        (others, none) ∧ List.Forall₂ Finding.Eases others findings := by
    apply survey_related _ surveyed
    intro constraint finding examined
    have extended : wider.Extends ({ setting with typing := after } : Setting).hierarchy := extension
    exact examine_extends extended examined
  have alike := Finding.map_unjudged (eases.imp fun _ _ own => own.unjudged)
  obtain ⟨typing, entered, written, _⟩ := extract_of_surveyed setting ledger assigned surveyed
  obtain ⟨retyped, reentered, rewritten, result⟩ :=
    extract_of_surveyed { setting with hierarchy := wider } ledger reassigned resurveyed
  have lines := Finding.lines_reported_congr alike ledger
  refine ⟨_, result, Finding.violations_sublist eases, Finding.foldl_enter_congr alike ledger, lines,
    rfl, rfl, ?_, ?_, ?_⟩
  · rw [retyped, typing]
  · rw [reentered, entered, Finding.foldl_enter_congr alike]
  · rw [rewritten, written, lines]

/-- The default hierarchy with a cycle between two of its schemes. -/
def cyclicSchemes : Hierarchy :=
  { Hierarchy.schemes with edges := ⟨"DET", "OPE"⟩ :: Hierarchy.schemeEdges, ranked := by decide }

/-- Three variables under the default hierarchy, each with one candidate. -/
def threeVariables : Setting where
  store := { references := [⟨⟨0, "a"⟩, .variable, some "a"⟩, ⟨⟨1, "b"⟩, .variable, some "b"⟩,
    ⟨⟨2, "c"⟩, .variable, some "c"⟩] }
  typing := ⟨⟨[
    (⟨0, "a"⟩, Profile.initial "a" "" (["DET"].filterMap Hierarchy.schemes.find?) none),
    (⟨1, "b"⟩, Profile.initial "b" "" (["OPE"].filterMap Hierarchy.schemes.find?) none),
    (⟨2, "c"⟩, Profile.initial "c" "" (["RND"].filterMap Hierarchy.schemes.find?) none)]⟩⟩
  hierarchy := .schemes
  severity := fun _ => .error

/-- Of two violations the one along the cycle is gone. -/
theorem extract_extends_cyclicSchemes : ∃ extraction result,
    (threeVariables.extract [⟨"a", "b", 1, "", .digits⟩, ⟨"c", "b", 2, "", .digits⟩]
        Ledger.empty).result = .ok extraction ∧
      ({ threeVariables with hierarchy := cyclicSchemes }.extract
        [⟨"a", "b", 1, "", .digits⟩, ⟨"c", "b", 2, "", .digits⟩] Ledger.empty).result = .ok result ∧
      extraction.errorCount = 2 ∧ result.errorCount = 1 ∧
      result.violations.Sublist extraction.violations ∧ result.ledger = extraction.ledger := by
  have narrow : (threeVariables.extract [⟨"a", "b", 1, "", .digits⟩, ⟨"c", "b", 2, "", .digits⟩]
      Ledger.empty).result.toOption.map Extraction.errorCount = some 2 := by
    cbv
  have wide : ({ threeVariables with hierarchy := cyclicSchemes }.extract
      [⟨"a", "b", 1, "", .digits⟩, ⟨"c", "b", 2, "", .digits⟩]
      Ledger.empty).result.toOption.map Extraction.errorCount = some 1 := by
    cbv
  obtain ⟨extraction, completed, count⟩ := Outcome.exists_of_toOption_map narrow
  obtain ⟨other, recompleted, recount⟩ := Outcome.exists_of_toOption_map wide
  have extension : cyclicSchemes.Extends threeVariables.hierarchy :=
    ⟨rfl, rfl, List.subset_cons_self _ _⟩
  obtain ⟨result, yields, violations, ledger, _⟩ := extract_extends extension completed
  obtain rfl := Except.ok.inj (yields.symm.trans recompleted)
  exact ⟨extraction, result, completed, yields, count, recount, violations, ledger⟩

end Setting
end SchemeTyping
