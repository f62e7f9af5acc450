import Mathlib.Data.List.Forall2
import SchemeTyping.Extraction.Pass
import SchemeTyping.Proofs.Outcome

/-! A completed check has taken up one finding for each constraint. What it adds to the violations
depends on the verdicts alone, and what it adds to the ledger on the requirements alone. -/
namespace SchemeTyping

namespace Setting
variable {setting : Setting} {constraint : Constraint} {constraints : List Constraint}

theorem reference_eq_ok {identifier : String} {reference : Reference} :
    setting.reference identifier = .ok reference ↔
      setting.store.find? identifier = some reference := by
  rw [Setting.reference, Outcome.mapError_eq_ok, Store.get]
  cases setting.store.find? identifier with
  | none => simp
  | some found => simp

theorem ends_eq_ok {left right : Reference} :
    setting.ends constraint = .ok (left, right) ↔
      setting.store.find? constraint.left = some left ∧
        setting.store.find? constraint.right = some right := by
  rw [← reference_eq_ok, ← reference_eq_ok]
  unfold ends
  cases foundLeft : setting.reference constraint.left with
  | error failure => simp
  | ok first =>
    cases foundRight : setting.reference constraint.right with
    | error failure => simp
    | ok second => simp

/-- Every finding belongs to its constraint. -/
theorem examine_eq_ok {finding : Finding} :
    setting.examine constraint = .ok finding ↔
      ∃ left right, setting.ends constraint = .ok (left, right) ∧
        setting.verdictOn constraint left right = .ok finding.verdict ∧
        finding.constraint = constraint ∧ finding.leftName = setting.typing.displayName left ∧
        finding.requirement = setting.requirementOn constraint left right := by
  unfold examine
  split
  · next failure failed => simp [failed]
  · next left right found =>
    rw [Outcome.map_eq_ok]
    constructor
    · rintro ⟨verdict, judged, rfl⟩
      exact ⟨left, right, found, judged, rfl, rfl, rfl⟩
    · rintro ⟨_, _, same, judged, rfl, name, required⟩
      obtain ⟨rfl, rfl⟩ := Prod.mk.inj (Except.ok.inj (found.symm.trans same))
      exact ⟨finding.verdict, judged, by rw [← name, ← required]⟩

/-- A survey that completes has examined each constraint once and in order. -/
theorem survey_completes {findings : List Finding} :
    setting.survey constraints = (findings, none) ↔
      findings.map Finding.constraint = constraints ∧
        ∀ finding ∈ findings, setting.examine finding.constraint = .ok finding := by
  induction constraints generalizing findings with
  | nil =>
    simp only [survey, Prod.mk.injEq, and_true, List.map_eq_nil_iff]
    constructor
    · rintro rfl
      exact ⟨rfl, by simp⟩
    · exact fun ⟨empty, _⟩ => empty.symm
  | cons constraint rest ih =>
    unfold survey
    split
    · next failure failed =>
      constructor
      · intro same
        cases same
      · rintro ⟨order, examined⟩
        obtain ⟨first, later, rfl, rfl, _⟩ := List.map_eq_cons_iff.mp order
        rw [examined first List.mem_cons_self] at failed
        cases failed
    · next first examinedFirst =>
      have own : first.constraint = constraint := by
        obtain ⟨_, _, _, _, own, _⟩ := examine_eq_ok.mp examinedFirst
        exact own
      constructor
      · intro same
        obtain ⟨listed, completed⟩ := Prod.mk.inj same
        obtain ⟨order, examined⟩ := ih.mp (Prod.ext rfl completed)
        subst listed
        refine ⟨by rw [List.map_cons, own, order], fun finding member => ?_⟩
        rcases List.mem_cons.mp member with rfl | later
        · rw [own, examinedFirst]
        · exact examined finding later
      · rintro ⟨order, examined⟩
        obtain ⟨head, later, rfl, rfl, restOrder⟩ := List.map_eq_cons_iff.mp order
        have same : head = first :=
          Except.ok.inj ((examined head List.mem_cons_self).symm.trans examinedFirst)
        rw [ih.mpr ⟨restOrder, fun finding member => examined finding (List.mem_cons_of_mem _ member)⟩,
          same]

/-- A survey completes if there is something to find about each constraint. -/
theorem survey_of_examined
    (examined : ∀ constraint ∈ constraints, ∃ finding, setting.examine constraint = .ok finding) :
    ∃ findings, setting.survey constraints = (findings, none) := by
  induction constraints with
  | nil => exact ⟨[], rfl⟩
  | cons constraint rest ih =>
    obtain ⟨finding, found⟩ := examined constraint List.mem_cons_self
    obtain ⟨findings, surveyed⟩ := ih fun other member =>
      examined other (List.mem_cons_of_mem _ member)
    exact ⟨finding :: findings, by simp only [survey, found, surveyed]⟩

/-- What one setting finds about a constraint another one finds as well, but for the verdict, if it judges
resolved ends as well and the conversion rule says the same. The verdicts are related as the judgements are. -/
theorem examine_related (first second : Setting) (Related : Verdict → Verdict → Prop)
    {constraint : Constraint} (ends : second.ends constraint = first.ends constraint)
    (typing : second.typing = first.typing)
    (requirement : ∀ left right,
      second.requirementOn constraint left right = first.requirementOn constraint left right)
    (unresolved : Related .unresolved .unresolved)
    (judges : ∀ lower upper verdict, first.judge constraint lower upper = .ok verdict →
      ∃ later, second.judge constraint lower upper = .ok later ∧ Related later verdict)
    {finding : Finding} (examined : first.examine constraint = .ok finding) :
    ∃ later, second.examine constraint = .ok { finding with verdict := later } ∧
      Related later finding.verdict := by
  obtain ⟨left, right, found, judged, rfl, name, required⟩ := examine_eq_ok.mp examined
  have rejudged : ∃ later, second.verdictOn finding.constraint left right = .ok later ∧
      Related later finding.verdict := by
    unfold verdictOn profile at judged ⊢
    rw [typing]
    split at judged
    · next lower upper heldLeft heldRight => exact judges lower upper finding.verdict judged
    · next unsettled =>
      rw [← Except.ok.inj judged]
      exact ⟨.unresolved, rfl, unresolved⟩
  obtain ⟨later, verdict, related⟩ := rejudged
  refine ⟨later, ?_, related⟩
  apply examine_eq_ok.mpr
  exact ⟨left, right, ends.trans found, verdict, rfl, typing ▸ name,
    required.trans (requirement left right).symm⟩

/-- What is related constraint by constraint is related finding by finding. -/
theorem survey_related {first second : Setting} {Related : Finding → Finding → Prop}
    (each : ∀ constraint finding, first.examine constraint = .ok finding →
      ∃ other, second.examine constraint = .ok other ∧ Related other finding)
    {constraints : List Constraint} {findings : List Finding}
    (surveyed : first.survey constraints = (findings, none)) :
    ∃ others, second.survey constraints = (others, none) ∧ List.Forall₂ Related others findings := by
  obtain ⟨rfl, examined⟩ := survey_completes.mp surveyed
  clear surveyed
  induction findings with
  | nil => exact ⟨[], rfl, .nil⟩
  | cons finding rest ih =>
    obtain ⟨other, examinedOther, own⟩ :=
      each finding.constraint finding (examined finding List.mem_cons_self)
    obtain ⟨others, surveyedOthers, related⟩ :=
      ih fun later member => examined later (List.mem_cons_of_mem _ member)
    refine ⟨other :: others, ?_, .cons own related⟩
    simp only [List.map_cons, survey, examinedOther, surveyedOthers]

/-- A survey of two lists goes on behind the first one if that completes. -/
theorem survey_append {first : List Constraint} {findings : List Finding}
    (surveyed : setting.survey first = (findings, none)) (second : List Constraint) :
    setting.survey (first ++ second) =
      (findings ++ (setting.survey second).1, (setting.survey second).2) := by
  obtain ⟨rfl, examined⟩ := survey_completes.mp surveyed
  clear surveyed
  induction findings with
  | nil => rfl
  | cons finding rest ih =>
    have later := ih fun other member => examined other (List.mem_cons_of_mem _ member)
    simp only [List.map_cons, List.cons_append, survey, examined finding List.mem_cons_self, later]

end Setting

namespace Finding

/-- The ledger after a finding: what it requires is recorded. -/
def enter (ledger : Ledger) (finding : Finding) : Ledger :=
  match finding.requirement with
  | none => ledger
  | some requirement =>
    ledger.record requirement.attributed requirement.conversion finding.constraint.key
      finding.constraint.sighting

end Finding

namespace Progress

theorem ledger_note (progress : Progress) (finding : Finding) :
    (progress.note finding).ledger = finding.enter progress.ledger := by
  have judged : ((progress.judge finding.constraint finding.verdict).blame finding.constraint
      finding.verdict).ledger = progress.ledger := by
    cases finding.verdict <;> rfl
  unfold note Finding.enter
  cases finding.requirement with
  | none => exact judged
  | some requirement =>
    simp only [convert?, convert, judged]
    split <;> rfl

theorem violations_note (progress : Progress) (finding : Finding) :
    (progress.note finding).violations = progress.violations ++
      if finding.verdict.isViolation then [finding.constraint] else [] := by
  have converted : ∀ start : Progress, (start.convert? finding.constraint finding.leftName
      finding.requirement).violations = start.violations := by
    intro start
    cases finding.requirement with
    | none => rfl
    | some requirement =>
      simp only [convert?, convert]
      split <;> rfl
  rw [note, converted]
  cases finding.verdict with
  | violated => rfl
  | _ => exact (List.append_nil _).symm

theorem ledger_foldl_note (findings : List Finding) (progress : Progress) :
    (findings.foldl note progress).ledger = findings.foldl Finding.enter
      progress.ledger := by
  induction findings generalizing progress with
  | nil => rfl
  | cons finding rest ih => rw [List.foldl_cons, ih, ledger_note, List.foldl_cons]

theorem violations_foldl_note (findings : List Finding) (progress : Progress) :
    (findings.foldl note progress).violations = progress.violations ++
      (findings.filter fun finding => finding.verdict.isViolation).map Finding.constraint := by
  induction findings generalizing progress with
  | nil => simp
  | cons finding rest ih =>
    rw [List.foldl_cons, ih, violations_note, List.append_assoc]
    by_cases violated : finding.verdict.isViolation = true
    · simp [violated]
    · simp [violated]

end Progress

namespace Setting
variable {setting : Setting} {constraints : List Constraint}

/-- What a check collects, also one that fails: its findings are taken up in order. -/
theorem check_of_surveyed {findings : List Finding} {failure : Option Failure}
    (surveyed : setting.survey constraints = (findings, failure)) (progress : Progress) :
    (setting.check progress constraints).2 = failure ∧
      (setting.check progress constraints).1.ledger =
        findings.foldl Finding.enter progress.ledger ∧
      (setting.check progress constraints).1.violations = progress.violations ++
        (findings.filter fun finding => finding.verdict.isViolation).map Finding.constraint := by
  let started := progress.tell .info "Verifying the concrete typing..."
  have ledger := Progress.ledger_foldl_note findings started
  have violations := Progress.violations_foldl_note findings started
  unfold check
  rw [surveyed]
  cases failure with
  | none => exact ⟨rfl, ledger, violations⟩
  | some failure => exact ⟨rfl, ledger, violations⟩

/-- A check completes exactly if its survey does, and then its findings say what it collects. -/
theorem check_completes {progress : Progress}
    (completed : (setting.check progress constraints).2 = none) :
    ∃ findings, setting.survey constraints = (findings, none) ∧
      (setting.check progress constraints).1.ledger =
        findings.foldl Finding.enter progress.ledger ∧
      (setting.check progress constraints).1.violations = progress.violations ++
        (findings.filter fun finding => finding.verdict.isViolation).map Finding.constraint := by
  cases surveyed : setting.survey constraints with
  | mk findings failure =>
    obtain ⟨failed, ledger, violations⟩ := check_of_surveyed surveyed progress
    obtain rfl : failure = none := failed.symm.trans completed
    exact ⟨findings, rfl, ledger, violations⟩

theorem check_of_survey {progress : Progress} {findings : List Finding}
    (surveyed : setting.survey constraints = (findings, none)) :
    (setting.check progress constraints).2 = none :=
  (check_of_surveyed surveyed progress).1

/-- A pass completes if assignment does and the check of what it assigns does; nothing was violated
before that check. -/
theorem extract_completes (setting : Setting) {after : Typing} (ledger : Ledger)
    (assigned : setting.hierarchy.assignAll setting.typing setting.store.references = (after, none))
    (checked : ∀ progress, ({ setting with typing := after }.check progress constraints).2 = none) :
    ∃ started extraction, started.violations = [] ∧
      (setting.extract constraints ledger).result = .ok extraction ∧
      extraction.violations =
        ({ setting with typing := after }.check started constraints).1.violations := by
  let started : Progress := ({ ledger } : Progress).tell .info
    ("Picking up the maximal qualifier for " ++ toString setting.store.size ++ " variables...")
  cases found : { setting with typing := after }.check started constraints with
  | mk progress failure =>
    have completed := checked started
    rw [found] at completed
    obtain rfl : failure = none := completed
    refine ⟨started, ⟨progress.violations, progress.ledger, progress.diagnostics,
      setting.store.size, constraints.length⟩, rfl, ?_, by rw [found]⟩
    simp only [started] at found
    simp only [extract, assigned, found]

end Setting
end SchemeTyping
