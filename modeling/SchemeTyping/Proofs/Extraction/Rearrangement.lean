import Mathlib
import SchemeTyping.Hierarchy.Schemes
import SchemeTyping.Proofs.Extraction.Assignment
import SchemeTyping.Proofs.Extraction.Collection
import SchemeTyping.Proofs.Reference.Store

/-! Passes over the same references and constraints in another order. The order of the references does not
matter at all; the order of the constraints decides only in which order the pass yields what it does, and
which of the constraints under one key is reported. -/
namespace SchemeTyping

namespace Setting

/-- Two settings that differ at most in the order of what they hold. -/
structure Alike (first second : Setting) : Prop where
  references : first.store.references.Perm second.store.references
  profiles : ∀ entity, first.typing.get entity = second.typing.get entity
  hierarchy : first.hierarchy = second.hierarchy
  severity : first.severity = second.severity

section Congruence
variable {first second : Setting} (alike : Alike first second)
include alike

theorem ends_congr (constraint : Constraint) : first.ends constraint = second.ends constraint := by
  unfold ends reference Store.get
  simp only [Store.find?_reordered alike.references]

theorem profile_congr (reference : Reference) : first.profile reference = second.profile reference :=
  alike.profiles reference.entity

theorem verdictOn_congr (constraint : Constraint) (left right : Reference) :
    first.verdictOn constraint left right = second.verdictOn constraint left right := by
  unfold verdictOn judge
  simp only [profile_congr alike, alike.hierarchy, alike.severity]

theorem requirementOn_congr (constraint : Constraint) (left right : Reference) :
    first.requirementOn constraint left right = second.requirementOn constraint left right := by
  unfold requirementOn startsAtBaseline standsForParameter isResolved effective
  simp only [profile_congr alike, alike.hierarchy, Store.declarationOf?_reordered alike.references]

/-- The same is found about each constraint. -/
theorem examine_congr (constraint : Constraint) :
    first.examine constraint = second.examine constraint := by
  unfold examine Typing.displayName
  simp only [ends_congr alike, verdictOn_congr alike, requirementOn_congr alike, alike.profiles]

theorem survey_congr (constraints : List Constraint) :
    first.survey constraints = second.survey constraints := by
  induction constraints with
  | nil => rfl
  | cons constraint rest ih => simp only [survey, examine_congr alike, ih]

end Congruence

variable {setting : Setting} {constraints arranged : List Constraint} {findings : List Finding}

/-- What a survey finds about each constraint does not depend on where the constraint stands. -/
theorem findings_of_survey (surveyed : setting.survey constraints = (findings, none)) :
    findings = constraints.filterMap fun constraint => (setting.examine constraint).toOption := by
  obtain ⟨rfl, examined⟩ := survey_completes.mp surveyed
  rw [List.filterMap_map]
  have found : ∀ finding ∈ findings,
      ((fun constraint => (setting.examine constraint).toOption) ∘ Finding.constraint) finding =
        some finding := by
    intro finding member
    simp [examined finding member, Except.toOption]
  rw [List.filterMap_congr found, List.filterMap_some]

/-- Constraints in another order are surveyed as well, and the findings follow their order. -/
theorem survey_rearranged (rearranged : constraints.Perm arranged)
    (surveyed : setting.survey constraints = (findings, none)) :
    ∃ others, setting.survey arranged = (others, none) ∧ others.Perm findings := by
  obtain ⟨order, examined⟩ := survey_completes.mp surveyed
  have reexamined : ∀ constraint ∈ arranged, ∃ finding, setting.examine constraint = .ok finding := by
    intro constraint member
    rw [← rearranged.mem_iff, ← order] at member
    obtain ⟨finding, present, rfl⟩ := List.mem_map.mp member
    exact ⟨finding, examined finding present⟩
  obtain ⟨others, resurveyed⟩ := survey_of_examined reexamined
  refine ⟨others, resurveyed, ?_⟩
  rw [findings_of_survey surveyed, findings_of_survey resurveyed]
  exact (rearranged.filterMap _).symm

end Setting

namespace Hierarchy

/-- References in another order are assigned to as well, and to the same effect. -/
theorem assignAll_rearranged {hierarchy : Hierarchy} {references others : List Reference}
    (reordered : references.Perm others) (distinct : (references.map Reference.entity).Nodup)
    {typing after : Typing} (assigned : hierarchy.assignAll typing references = (after, none)) :
    ∃ reached, hierarchy.assignAll typing others = (reached, none) ∧
      ∀ entity, after.get entity = reached.get entity := by
  have admits := admits_of_assignAll distinct assigned
  have entities := reordered.map Reference.entity
  obtain ⟨reached, completed, gets⟩ := assignAll_of_admits (entities.nodup_iff.mp distinct)
    fun reference member => admits reference (reordered.mem_iff.mpr member)
  refine ⟨reached, completed, fun entity => ?_⟩
  rw [get_of_assignAll distinct assigned, gets]
  simp only [entities.mem_iff]

end Hierarchy

namespace Finding
variable {findings others : List Finding} (rearranged : others.Perm findings)
include rearranged

theorem conversionsFor_rearranged (identifier : String) :
    ((others.foldl enter Ledger.empty).conversionsFor identifier).Perm
      ((findings.foldl enter Ledger.empty).conversionsFor identifier) := by
  rw [conversionsFor_foldl_enter, conversionsFor_foldl_enter]
  exact (rearranged.flatMap_right (addition identifier)).append_left _

/-- The same keys come to be seen, though perhaps by other constraints. -/
theorem seen_rearranged : (others.foldl enter Ledger.empty).seen.keys.Perm
    (findings.foldl enter Ledger.empty).seen.keys := by
  have distinct : Ledger.empty.seen.keys.Nodup := List.nodup_nil
  rw [List.perm_ext_iff_of_nodup (nodup_keys_foldl_enter distinct) (nodup_keys_foldl_enter distinct)]
  intro key
  simp only [mem_keys_foldl_enter, rearranged.mem_iff]

theorem total_rearranged : (others.foldl enter Ledger.empty).total =
    (findings.foldl enter Ledger.empty).total := by
  rw [total_foldl_enter, total_foldl_enter, rearranged.countP_eq]

theorem size_rearranged : (others.foldl enter Ledger.empty).size =
    (findings.foldl enter Ledger.empty).size := by
  have same := (seen_rearranged rearranged).length_eq
  rwa [Table.length_keys, Table.length_keys] at same

theorem length_lines_rearranged : ((reported Ledger.empty others).flatMap lines).length =
    ((reported Ledger.empty findings).flatMap lines).length := by
  have first := length_lines_reported Ledger.empty others
  have second := length_lines_reported Ledger.empty findings
  rw [size_rearranged rearranged] at first
  omega

end Finding

namespace Setting
variable {setting : Setting} {references others : List Reference}
  {constraints arranged : List Constraint} {extraction : Extraction}

/-- With the same references added to the store in another order, and the same constraints in another
order, a pass with a fresh ledger completes as well. It resolves every entity alike and yields the same
violations and the same conversions of each identifier up to their order, under the same keys and in the
same numbers. With the constraints in the same order it yields the very same. -/
theorem extract_rearranged (built : Store.ofList references = .ok setting.store)
    (reordered : references.Perm others) (rearranged : constraints.Perm arranged)
    (completed : (setting.extract constraints Ledger.empty).result = .ok extraction) :
    ∃ store result, Store.ofList others = .ok store ∧
      let pass := { setting with store }.extract arranged Ledger.empty
      pass.result = .ok result ∧
      (∀ entity, pass.typing.get entity =
        (setting.extract constraints Ledger.empty).typing.get entity) ∧
      result.violations.Perm extraction.violations ∧
      (∀ identifier, (result.ledger.conversionsFor identifier).Perm
        (extraction.ledger.conversionsFor identifier)) ∧
      result.ledger.seen.keys.Perm extraction.ledger.seen.keys ∧
      result.ledger.total = extraction.ledger.total ∧
      result.ledger.size = extraction.ledger.size ∧
      result.diagnostics.length = extraction.diagnostics.length ∧
      result.isOk = extraction.isOk ∧ result.errorCount = extraction.errorCount ∧
      (arranged = constraints → result = extraction) := by
  obtain ⟨store, rebuilt, listed⟩ := Store.ofList_perm reordered built
  obtain ⟨after, findings, assigned, surveyed, rfl⟩ := extract_eq_ok completed
  obtain ⟨reached, reassigned, gets⟩ :=
    Hierarchy.assignAll_rearranged listed setting.store.nodup_entities assigned
  have alike : Alike { setting with typing := after } { setting with store, typing := reached } :=
    ⟨listed, gets, rfl, rfl⟩
  -- Over the other store the same is found, so only the order of the constraints is left to see to.
  have surveyedAlike : { setting with store, typing := reached }.survey constraints = (findings, none) :=
    (survey_congr alike constraints).symm.trans surveyed
  obtain ⟨found, resurveyed, same⟩ := survey_rearranged rearranged surveyedAlike
  obtain ⟨settled, _, _, _⟩ := extract_of_surveyed setting Ledger.empty assigned surveyed
  obtain ⟨resettled, _, _, result⟩ :=
    extract_of_surveyed { setting with store } Ledger.empty reassigned resurveyed
  have violations := (same.filter fun finding => finding.verdict.isViolation).map Finding.constraint
  have yields : ({ setting with store }.extract arranged Ledger.empty).result =
      .ok ({ setting with store }.extractionOf arranged Ledger.empty found) := result
  refine ⟨store, _, rebuilt, yields, fun entity => ?_, violations, Finding.conversionsFor_rearranged same,
    Finding.seen_rearranged same, Finding.total_rearranged same, Finding.size_rearranged same,
    Finding.length_lines_rearranged same, violations.isEmpty_eq, violations.length_eq, ?_⟩
  · rw [resettled, settled, gets]
  · rintro rfl
    obtain rfl := (Prod.mk.inj (resurveyed.symm.trans surveyedAlike)).1
    simp only [extractionOf, Store.size, listed.length_eq]

/-- A parameter under the default hierarchy that may be random or deterministic, and a use of it that has to
be deterministic. -/
def parameterAndUse : Setting where
  store := { references := [⟨⟨0, "limit"⟩, .parameter, some "limit"⟩, ⟨⟨1, "use"⟩, .other, some "limit"⟩] }
  typing := ⟨⟨[
    (⟨0, "limit"⟩, Profile.initial "limit" ""
      (["DET", "RND"].filterMap Hierarchy.schemes.find?) none),
    (⟨1, "use"⟩, Profile.initial "use" "" (["DET"].filterMap Hierarchy.schemes.find?) none)]⟩⟩
  hierarchy := .schemes
  severity := fun _ => .error

set_option maxRecDepth 2000 in
/-- Both constraints have one key. The other one of them comes first when they are exchanged. -/
theorem extract_rearranged_parameterAndUse : ∃ extraction store result,
    (parameterAndUse.extract [⟨"limit", "use", 7, "first", .digits⟩, ⟨"limit", "use", 7, "second", .digits⟩]
        Ledger.empty).result = .ok extraction ∧
      Store.ofList [⟨⟨1, "use"⟩, .other, some "limit"⟩, ⟨⟨0, "limit"⟩, .parameter, some "limit"⟩] =
        .ok store ∧
      ({ parameterAndUse with store }.extract [⟨"limit", "use", 7, "second", .digits⟩,
        ⟨"limit", "use", 7, "first", .digits⟩] Ledger.empty).result = .ok result ∧
      result.errorCount = 2 ∧ result.violations.Perm extraction.violations := by
  have evaluated : (parameterAndUse.extract [⟨"limit", "use", 7, "first", .digits⟩,
      ⟨"limit", "use", 7, "second", .digits⟩] Ledger.empty).result.toOption.map Extraction.errorCount =
        some 2 := by
    cbv
  obtain ⟨extraction, completed, count⟩ := Outcome.exists_of_toOption_map evaluated
  obtain ⟨store, result, rebuilt, yields, _, violations, _, _, _, _, _, _, errors, _⟩ :=
    extract_rearranged (Store.ofList_eq_ok.mpr rfl) (.swap _ _ []) (.swap _ _ []) completed
  exact ⟨extraction, store, result, completed, rebuilt, yields, errors.trans count, violations⟩

end Setting
end SchemeTyping
