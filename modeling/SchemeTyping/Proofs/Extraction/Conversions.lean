import SchemeTyping.Extraction.Pass
import SchemeTyping.Hierarchy.Schemes
import SchemeTyping.Proofs.Extraction.Survey

/-! The conversion rule as a relation, and what a completed check adds to the ledger: for each
constraint in order the one conversion that the rule requires, if it requires any. -/
namespace SchemeTyping

/-- Two ends of a placed constraint whose effective schemes differ. Neither is a null mark, and the
right one is resolved. -/
structure Diverges (store : Store) (typing : Typing) (constraint : Constraint)
    (left right : Reference) (source target : Qualifier) : Prop where
  leftFound : store.find? constraint.left = some left
  rightFound : store.find? constraint.right = some right
  placed : 0 < constraint.position
  leftMark : left.kind ≠ .equalNull
  rightMark : right.kind ≠ .equalNull
  resolved : (typing.profile right).resolved ≠ none
  sourceHeld : (typing.profile left).effective = some source
  targetHeld : (typing.profile right).effective = some target
  differ : source.name ≠ target.name

/-- A baseline value goes to something that is no adapted method. -/
def FromBaseline (baseline source : Qualifier) (right : Reference) : Prop :=
  source.name = baseline.name ∧ right.kind.flavour ≠ .methodAdapt

/-- The conversion that a constraint requires and the identifier it belongs to. A baseline value needs
none where a parameter takes it. -/
inductive Requires (store : Store) (typing : Typing) (baseline : Qualifier)
    (constraint : Constraint) : String → Conversion → Prop where
  | fromBaseline {left right : Reference} {source target : Qualifier}
      (diverges : Diverges store typing constraint left right source target)
      (start : FromBaseline baseline source right)
      (taker : right.kind ≠ .parameter)
      (owner : ∀ declaration, store.declarationOf? right = some declaration →
        declaration.kind ≠ .parameter) :
      Requires store typing baseline constraint left.identifier
        ⟨constraint.position, source.name, target.name, constraint.spelling⟩
  | between {left right : Reference} {source target : Qualifier}
      (diverges : Diverges store typing constraint left right source target)
      (start : ¬ FromBaseline baseline source right)
      (resolved : (typing.profile left).resolved ≠ none) :
      Requires store typing baseline constraint
        (if left.kind.isAdapted then right.identifier else left.identifier)
        ⟨constraint.position, source.name, target.name, constraint.spelling⟩

/-- A table of conversions after some constraints, each of which appends what a rule requires of it
and otherwise leaves the table alone. -/
inductive Appended (rule : Constraint → String → Conversion → Prop) :
    List Constraint → Table String (List Conversion) → Table String (List Conversion) → Prop where
  | done (table : Table String (List Conversion)) : Appended rule [] table table
  | passed {constraint : Constraint} {rest : List Constraint}
      {table after : Table String (List Conversion)}
      (silent : ∀ identifier conversion, ¬ rule constraint identifier conversion)
      (later : Appended rule rest table after) : Appended rule (constraint :: rest) table after
  | grown {constraint : Constraint} {rest : List Constraint} {identifier : String}
      {conversion : Conversion} {table after : Table String (List Conversion)}
      (required : rule constraint identifier conversion)
      (later : Appended rule rest
        (table.put identifier ((table.find? identifier).getD [] ++ [conversion])) after) :
      Appended rule (constraint :: rest) table after

namespace Setting
variable {setting : Setting} {constraint : Constraint} {left right : Reference}

theorem change?_eq_some {source target : Option Qualifier} {conversion : Conversion} :
    change? constraint source target = some conversion ↔
      ∃ from? to?, source = some from? ∧ target = some to? ∧ from?.name ≠ to?.name ∧
        conversion = ⟨constraint.position, from?.name, to?.name, constraint.spelling⟩ := by
  unfold change?
  cases source with
  | none => simp
  | some lower =>
    cases target with
    | none => simp
    | some upper =>
      by_cases agrees : lower.Agrees upper
      · have same : lower.name = upper.name := agrees
        simp [agrees, same]
      · have apart : ¬ lower.name = upper.name := agrees
        simp [agrees, apart, eq_comm]

/-- Neither end is a null mark and the constraint has a position. -/
theorem isExempt_eq_false : isExempt constraint left right = false ↔
    0 < constraint.position ∧ left.kind ≠ .equalNull ∧ right.kind ≠ .equalNull := by
  simp [isExempt, Constraint.isSynthetic, Nat.pos_iff_ne_zero, and_assoc]

theorem startsAtBaseline_iff {source : Qualifier}
    (held : (setting.typing.profile left).effective = some source)
    (resolved : (setting.typing.profile right).resolved ≠ none) :
    setting.startsAtBaseline left right = true ↔
      FromBaseline setting.hierarchy.baseline source right := by
  have settled : setting.isResolved right = true := Option.isSome_iff_ne_none.mpr resolved
  simp only [startsAtBaseline, effective, profile, held, settled, Bool.and_eq_true,
    decide_eq_true_eq, bne_iff_ne, and_true]
  rfl

theorem standsForParameter_eq_false : setting.standsForParameter right = false ↔
    right.kind ≠ .parameter ∧ ∀ declaration, setting.store.declarationOf? right = some declaration →
      declaration.kind ≠ .parameter := by
  unfold standsForParameter
  cases setting.store.declarationOf? right <;> simp

/-- What a change of scheme between regular ends comes from. -/
theorem diverges_of_change {conversion : Conversion}
    (found : setting.ends constraint = .ok (left, right))
    (regular : isExempt constraint left right = false)
    (resolved : setting.isResolved right = true)
    (changed : change? constraint (setting.effective left) (setting.effective right) =
      some conversion) :
    ∃ source target, Diverges setting.store setting.typing constraint left right source target ∧
      conversion = ⟨constraint.position, source.name, target.name, constraint.spelling⟩ := by
  obtain ⟨foundLeft, foundRight⟩ := ends_eq_ok.mp found
  obtain ⟨placed, leftMark, rightMark⟩ := isExempt_eq_false.mp regular
  obtain ⟨source, target, held, taken, differ, same⟩ := change?_eq_some.mp changed
  exact ⟨source, target, ⟨foundLeft, foundRight, placed, leftMark, rightMark,
    Option.isSome_iff_ne_none.mp resolved, held, taken, differ⟩, same⟩

section Divergence
variable {source target : Qualifier}
  (diverges : Diverges setting.store setting.typing constraint left right source target)
include diverges

theorem ends_of_diverges : setting.ends constraint = .ok (left, right) :=
  ends_eq_ok.mpr ⟨diverges.leftFound, diverges.rightFound⟩

theorem isExempt_of_diverges : isExempt constraint left right = false :=
  isExempt_eq_false.mpr ⟨diverges.placed, diverges.leftMark, diverges.rightMark⟩

theorem isResolved_of_diverges : setting.isResolved right = true :=
  Option.isSome_iff_ne_none.mpr diverges.resolved

theorem change?_of_diverges :
    change? constraint (setting.effective left) (setting.effective right) =
      some ⟨constraint.position, source.name, target.name, constraint.spelling⟩ :=
  change?_eq_some.mpr
    ⟨source, target, diverges.sourceHeld, diverges.targetHeld, diverges.differ, rfl⟩

theorem startsAtBaseline_of_diverges : setting.startsAtBaseline left right = true ↔
    FromBaseline setting.hierarchy.baseline source right :=
  startsAtBaseline_iff diverges.sourceHeld diverges.resolved

end Divergence

/-- Whatever the cascade of cases finds is required by the rule. -/
theorem requires_of_requirementOn {requirement : Requirement}
    (found : setting.ends constraint = .ok (left, right))
    (required : setting.requirementOn constraint left right = some requirement) :
    Requires setting.store setting.typing setting.hierarchy.baseline constraint
      requirement.attributed requirement.conversion := by
  unfold requirementOn at required
  split at required
  · cases required
  · next exempt =>
    have regular := Bool.eq_false_iff.mpr exempt
    split at required
    · next start =>
      split at required
      · cases required
      · next stands =>
        obtain ⟨conversion, changed, rfl⟩ := Option.map_eq_some_iff.mp required
        have resolved := (Bool.and_eq_true_iff.mp start).2
        obtain ⟨source, target, diverges, rfl⟩ := diverges_of_change found regular resolved changed
        obtain ⟨taker, owner⟩ := standsForParameter_eq_false.mp (Bool.eq_false_iff.mpr stands)
        exact .fromBaseline diverges ((startsAtBaseline_of_diverges diverges).mp start) taker owner
    · next start =>
      split at required
      · next both =>
        obtain ⟨leftResolved, rightResolved⟩ := Bool.and_eq_true_iff.mp both
        obtain ⟨conversion, changed, rfl⟩ := Option.map_eq_some_iff.mp required
        obtain ⟨source, target, diverges, rfl⟩ :=
          diverges_of_change found regular rightResolved changed
        exact .between diverges
          (fun baseline => start ((startsAtBaseline_of_diverges diverges).mpr baseline))
          (Option.isSome_iff_ne_none.mp leftResolved)
      · cases required

/-- Whatever the rule requires is found by the cascade of cases. -/
theorem requirementOn_of_requires {identifier : String} {conversion : Conversion}
    (found : setting.ends constraint = .ok (left, right))
    (required : Requires setting.store setting.typing setting.hierarchy.baseline constraint
      identifier conversion) :
    setting.requirementOn constraint left right = some ⟨identifier, conversion⟩ := by
  cases required with
  | fromBaseline diverges start taker owner =>
    obtain ⟨rfl, rfl⟩ := Prod.mk.inj (Except.ok.inj (found.symm.trans (ends_of_diverges diverges)))
    have starts := (startsAtBaseline_of_diverges diverges).mpr start
    have passes := standsForParameter_eq_false.mpr ⟨taker, owner⟩
    simp only [requirementOn, isExempt_of_diverges diverges, starts, passes,
      change?_of_diverges diverges, Bool.false_eq_true, if_false, if_true, Option.map_some]
  | between diverges start resolved =>
    obtain ⟨rfl, rfl⟩ := Prod.mk.inj (Except.ok.inj (found.symm.trans (ends_of_diverges diverges)))
    have elsewhere := Bool.eq_false_iff.mpr fun starts =>
      start ((startsAtBaseline_of_diverges diverges).mp starts)
    have leftResolved : setting.isResolved left = true := Option.isSome_iff_ne_none.mpr resolved
    simp only [requirementOn, isExempt_of_diverges diverges, elsewhere, leftResolved,
      isResolved_of_diverges diverges, change?_of_diverges diverges, Bool.and_self,
      Bool.false_eq_true, if_false, if_true, Option.map_some]

/-- Entering the findings of a survey appends to the conversions what the rule requires. -/
theorem appended_foldl_enter {findings : List Finding}
    (examined : ∀ finding ∈ findings, setting.examine finding.constraint = .ok finding)
    (ledger : Ledger) (table : Table String (List Conversion)) :
    Appended (Requires setting.store setting.typing setting.hierarchy.baseline)
        (findings.map Finding.constraint) ledger.conversions table ↔
      table = (findings.foldl Finding.enter ledger).conversions := by
  induction findings generalizing ledger with
  | nil =>
    constructor
    · intro appended
      cases appended
      rfl
    · rintro rfl
      exact .done _
  | cons finding rest ih =>
    obtain ⟨left, right, found, _, _, _, own⟩ := examine_eq_ok.mp (examined finding List.mem_cons_self)
    have later := ih (fun other member => examined other (List.mem_cons_of_mem _ member))
      (finding.enter ledger)
    rw [List.map_cons, List.foldl_cons, ← later]
    -- The rule is a partial function, so a constraint has one way to leave the table.
    cases required : finding.requirement with
    | none =>
      have silent : ∀ identifier conversion, ¬ Requires setting.store setting.typing
          setting.hierarchy.baseline finding.constraint identifier conversion := by
        intro identifier conversion asked
        have contrary := requirementOn_of_requires found asked
        rw [← own, required] at contrary
        cases contrary
      have same : finding.enter ledger = ledger := by simp only [Finding.enter, required]
      rw [same]
      constructor
      · intro appended
        cases appended with
        | passed _ tail => exact tail
        | grown asked _ => exact absurd asked (silent _ _)
      · exact fun tail => .passed silent tail
    | some requirement =>
      have asked := requires_of_requirementOn found (own.symm.trans required)
      have same : (finding.enter ledger).conversions = ledger.conversions.put requirement.attributed
          ((ledger.conversions.find? requirement.attributed).getD [] ++ [requirement.conversion]) := by
        simp only [Finding.enter, required]
        rfl
      rw [same]
      constructor
      · intro appended
        cases appended with
        | passed silent _ => exact absurd asked (silent _ _)
        | grown other tail =>
          have only := (requirementOn_of_requires found other).symm.trans
            (own.symm.trans required)
          obtain rfl := Option.some.inj only
          exact tail
      · exact fun tail => .grown asked tail

end Setting

/-- A finding without its verdict. -/
def Finding.unjudged (finding : Finding) : Finding := { finding with verdict := .unresolved }

theorem Finding.map_unjudged {later earlier : List Finding}
    (alike : List.Forall₂ (fun first second => first.unjudged = second.unjudged) later earlier) :
    later.map unjudged = earlier.map unjudged := by
  induction alike with
  | nil => rfl
  | cons own _ ih => rw [List.map_cons, List.map_cons, own, ih]

/-- Verdicts leave the ledger alone. -/
theorem Finding.foldl_enter_congr {first second : List Finding}
    (alike : first.map unjudged = second.map unjudged) (ledger : Ledger) :
    first.foldl enter ledger =
      second.foldl enter ledger := by
  have blind : ∀ findings : List Finding,
      findings.foldl Finding.enter ledger =
        (findings.map unjudged).foldl (fun ledger finding => finding.enter ledger) ledger :=
    fun findings => by rw [List.foldl_map]; rfl
  rw [blind, alike, ← blind]

namespace Setting
variable {setting : Setting}

/-- Two resolved ends are judged under every policy if they are under one. -/
theorem judge_severity {constraint : Constraint} {lower upper : Qualifier} {verdict : Verdict}
    (severity : Constraint → Severity) (judged : setting.judge constraint lower upper = .ok verdict) :
    ∃ later, { setting with severity }.judge constraint lower upper = .ok later := by
  unfold judge at judged ⊢
  cases answer : setting.hierarchy.isSubtype lower.name upper.name with
  | error fault =>
    rw [answer] at judged
    cases judged
  | ok subtype =>
    cases subtype with
    | true => exact ⟨.satisfied, rfl⟩
    | false =>
      dsimp only
      split
      · exact ⟨.violated, rfl⟩
      · exact ⟨.tolerated lower upper, rfl⟩

/-- Under another policy the same constraints are found to require the same. -/
theorem examine_severity {constraint : Constraint} {finding : Finding}
    (severity : Constraint → Severity) (examined : setting.examine constraint = .ok finding) :
    ∃ other, { setting with severity }.examine constraint = .ok other ∧
      other.unjudged = finding.unjudged := by
  have judges (lower upper : Qualifier) (verdict : Verdict)
      (judged : setting.judge constraint lower upper = .ok verdict) :
      ∃ later, { setting with severity }.judge constraint lower upper = .ok later ∧ True := by
    obtain ⟨later, rejudged⟩ := judge_severity severity judged
    exact ⟨later, rejudged, trivial⟩
  obtain ⟨later, reexamined, _⟩ := examine_related setting { setting with severity } (fun _ _ => True)
    rfl rfl (fun _ _ => rfl) trivial judges examined
  exact ⟨_, reexamined, rfl⟩

theorem survey_severity {constraints : List Constraint} {findings : List Finding}
    (severity : Constraint → Severity) (surveyed : setting.survey constraints = (findings, none)) :
    ∃ others, { setting with severity }.survey constraints = (others, none) ∧
      others.map Finding.unjudged = findings.map Finding.unjudged := by
  have each (constraint : Constraint) (finding : Finding)
      (examined : setting.examine constraint = .ok finding) :=
    examine_severity severity examined
  obtain ⟨others, surveyedOthers, alike⟩ := survey_related each surveyed
  exact ⟨others, surveyedOthers, Finding.map_unjudged alike⟩

/-- A check that completes appends to the conversions, for each constraint in order, what the
conversion rule requires of it, and nothing else. Neither another policy nor other verdicts change
what the ledger holds. -/
theorem conversions_check {progress : Progress} {constraints : List Constraint}
    (completed : (setting.check progress constraints).2 = none) :
    (∀ table, Appended (Requires setting.store setting.typing setting.hierarchy.baseline)
        constraints progress.ledger.conversions table ↔
      table = (setting.check progress constraints).1.ledger.conversions) ∧
    (∀ severity, ({ setting with severity }.check progress constraints).2 = none ∧
      ({ setting with severity }.check progress constraints).1.ledger =
        (setting.check progress constraints).1.ledger) ∧
    ∀ others : List Finding,
      others.map Finding.unjudged =
        (setting.survey constraints).1.map Finding.unjudged →
      (others.foldl Progress.note progress).ledger =
        (setting.check progress constraints).1.ledger := by
  obtain ⟨findings, surveyed, ledger, _⟩ := check_completes completed
  obtain ⟨order, examined⟩ := survey_completes.mp surveyed
  refine ⟨fun table => ?_, fun severity => ?_, fun others alike => ?_⟩
  · rw [ledger, ← order]
    exact appended_foldl_enter examined progress.ledger table
  · obtain ⟨others, surveyedOthers, alike⟩ := survey_severity severity surveyed
    have completedOther : ({ setting with severity }.check progress constraints).2 = none :=
      check_of_survey surveyedOthers
    obtain ⟨_, same, ledgerOther, _⟩ := check_completes completedOther
    obtain rfl := (Prod.mk.inj (surveyedOthers.symm.trans same)).1
    exact ⟨completedOther, by rw [ledgerOther, ledger, Finding.foldl_enter_congr alike]⟩
  · rw [surveyed] at alike
    rw [ledger, Progress.ledger_foldl_note, Finding.foldl_enter_congr alike]

/-- Three references under the default hierarchy: a clear variable, a random parameter, and a view of
the variable whose scheme is given explicitly. -/
def threeReferences : Setting where
  store := { references := [
    ⟨⟨0, "zero"⟩, .variable, some "zero"⟩, ⟨⟨1, "limit"⟩, .parameter, some "limit"⟩,
    ⟨⟨2, "view"⟩, .adapt ⟨0, "zero"⟩, none⟩] }
  typing := ⟨⟨[
    (⟨0, "zero"⟩, { resolved := Hierarchy.schemes.find? "CLEAR" }),
    (⟨1, "limit"⟩, { resolved := Hierarchy.schemes.find? "RND" }),
    (⟨2, "view"⟩, { explicit := Hierarchy.schemes.find? "DET",
                    resolved := Hierarchy.schemes.find? "CLEAR" })]⟩⟩
  hierarchy := .schemes
  severity := fun _ => .error

/-- The clear variable, the parameter that takes it as it is, and the view, which is charged to the
right end. -/
theorem conversions_check_threeReferences :
    (threeReferences.check {} [⟨"zero", "limit", 5, "", .digits⟩, ⟨"zero", "view", 6, "", .digits⟩,
        ⟨"view", "limit", 7, "", .digits⟩]).2 = none ∧
      Appended (Requires threeReferences.store threeReferences.typing
          threeReferences.hierarchy.baseline)
        [⟨"zero", "limit", 5, "", .digits⟩, ⟨"zero", "view", 6, "", .digits⟩,
          ⟨"view", "limit", 7, "", .digits⟩] Table.empty
        ⟨[("zero", [⟨6, "CLEAR", "DET", .digits⟩]), ("limit", [⟨7, "DET", "RND", .digits⟩])]⟩ := by
  have completed : (threeReferences.check {} [⟨"zero", "limit", 5, "", .digits⟩,
      ⟨"zero", "view", 6, "", .digits⟩, ⟨"view", "limit", 7, "", .digits⟩]).2 = none := by
    decide +kernel
  exact ⟨completed, ((conversions_check completed).1 _).mpr (by decide +kernel)⟩

end Setting
end SchemeTyping
