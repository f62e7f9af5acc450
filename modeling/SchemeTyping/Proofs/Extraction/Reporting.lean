import Mathlib.Data.List.Forall2
import Mathlib.Data.List.Infix
import SchemeTyping.Proofs.Extraction.Collection
import SchemeTyping.Proofs.Extraction.Conversions

/-! What a check reports: the first conversion under each key that was not seen before, in the order of
the constraints. The identifiers that conversions are attributed to have no say in it. -/
namespace SchemeTyping

/-- The name by which diagnostics show a reference: that of the declaration which an adapted reference
views, otherwise its own. -/
def Typing.shownName (typing : Typing) (reference : Reference) : String :=
  match reference.kind with
  | .adapt declaration => (typing.get declaration).name
  | .methodAdapt declaration => (typing.get declaration).name
  | _ => (typing.profile reference).name

theorem Typing.displayName_eq (typing : Typing) (reference : Reference) :
    typing.displayName reference = typing.shownName reference := by
  unfold displayName shownName
  cases reference.kind <;> rfl

namespace Setting

/-- What a constraint requires, if its ends are found. -/
def requirement? (setting : Setting) (constraint : Constraint) : Option Requirement :=
  match setting.ends constraint with
  | .error _ => none
  | .ok (left, right) => setting.requirementOn constraint left right

/-- A constraint converts if the rule requires a conversion of it. -/
def Converts (setting : Setting) (constraint : Constraint) : Prop :=
  ∃ identifier conversion, Requires setting.store setting.typing setting.hierarchy.baseline constraint
    identifier conversion

/-- Two lines report a constraint: the constraint itself, then where its left end is converted from which
scheme to which. -/
def Reports (setting : Setting) (constraint : Constraint) (block : List String) : Prop :=
  ∃ left identifier conversion, setting.store.find? constraint.left = some left ∧
    Requires setting.store setting.typing setting.hierarchy.baseline constraint identifier conversion ∧
    block = [constraint.toText, "Line " ++ constraint.positionText ++ ": " ++
      setting.typing.shownName left ++ " " ++ conversion.source ++ " => " ++ conversion.target]

variable {setting : Setting} {constraint : Constraint}

theorem ends_of_requires {identifier : String} {conversion : Conversion}
    (required : Requires setting.store setting.typing setting.hierarchy.baseline constraint identifier
      conversion) : ∃ left right, setting.ends constraint = .ok (left, right) := by
  cases required with
  | fromBaseline diverges => exact ⟨_, _, ends_of_diverges diverges⟩
  | between diverges => exact ⟨_, _, ends_of_diverges diverges⟩

theorem requirement?_eq_some {requirement : Requirement} :
    setting.requirement? constraint = some requirement ↔ Requires setting.store setting.typing
      setting.hierarchy.baseline constraint requirement.attributed requirement.conversion := by
  constructor
  · intro required
    unfold requirement? at required
    split at required
    · cases required
    · next left right found => exact requires_of_requirementOn found required
  · intro required
    obtain ⟨left, right, found⟩ := ends_of_requires required
    simp only [requirement?, found]
    exact requirementOn_of_requires found required

theorem converts_iff : setting.Converts constraint ↔
    (setting.requirement? constraint).isSome = true := by
  rw [Option.isSome_iff_exists]
  constructor
  · rintro ⟨identifier, conversion, required⟩
    exact ⟨⟨identifier, conversion⟩, requirement?_eq_some.mpr required⟩
  · rintro ⟨requirement, required⟩
    exact ⟨_, _, requirement?_eq_some.mp required⟩

instance (setting : Setting) (constraint : Constraint) : Decidable (setting.Converts constraint) :=
  decidable_of_iff _ converts_iff.symm

/-- A constraint that converts, under a key that was not seen before and under which no earlier constraint
converts. -/
structure IsFirst (setting : Setting) (seen : List ConversionKey) (earlier : List Constraint)
    (constraint : Constraint) : Prop where
  converts : setting.Converts constraint
  unseen : constraint.key ∉ seen
  first : ∀ other ∈ earlier, setting.Converts other → other.key ≠ constraint.key

theorem isFirst_iff {seen : List ConversionKey} {earlier : List Constraint} :
    setting.IsFirst seen earlier constraint ↔ setting.Converts constraint ∧ constraint.key ∉ seen ∧
      ∀ other ∈ earlier, setting.Converts other → other.key ≠ constraint.key :=
  ⟨fun first => ⟨first.converts, first.unseen, first.first⟩,
    fun ⟨converts, unseen, first⟩ => ⟨converts, unseen, first⟩⟩

instance (setting : Setting) (seen : List ConversionKey) (earlier : List Constraint)
    (constraint : Constraint) : Decidable (setting.IsFirst seen earlier constraint) :=
  decidable_of_iff _ isFirst_iff.symm

/-- The constraints that convert first under their keys, each judged by those before it. -/
def firsts (setting : Setting) (seen : List ConversionKey) (constraints : List Constraint) :
    List Constraint :=
  ((constraints.inits.zip constraints).filter fun (earlier, constraint) =>
    setting.IsFirst seen earlier constraint).map Prod.snd

/-- Behind a constraint that converts, its key is as good as seen. -/
theorem isFirst_cons {seen : List ConversionKey} {head : Constraint} {earlier : List Constraint} :
    setting.IsFirst seen (head :: earlier) constraint ↔
      setting.IsFirst (if setting.Converts head then head.key :: seen else seen) earlier constraint := by
  rw [isFirst_iff, isFirst_iff, List.forall_mem_cons]
  by_cases converts : setting.Converts head
  · rw [if_pos converts, List.mem_cons, not_or, ← ne_eq, ne_comm]
    tauto
  · rw [if_neg converts]
    tauto

theorem firsts_cons (seen : List ConversionKey) (head : Constraint) (rest : List Constraint) :
    setting.firsts seen (head :: rest) =
      (if setting.IsFirst seen [] head then [head] else []) ++
        setting.firsts (if setting.Converts head then head.key :: seen else seen) rest := by
  -- Each constraint of the rest has the head among those before it.
  have later : (fun pair : List Constraint × Constraint =>
        decide (setting.IsFirst seen pair.1 pair.2)) ∘ Prod.map (fun earlier => head :: earlier) id =
      fun pair => decide (setting.IsFirst
        (if setting.Converts head then head.key :: seen else seen) pair.1 pair.2) :=
    funext fun _ => decide_eq_decide.mpr isFirst_cons
  unfold firsts
  rw [List.inits_cons, List.zip_cons_cons, List.zip_map_left, List.filter_cons, List.filter_map, later]
  by_cases first : setting.IsFirst seen [] head
  · simp [first]
  · simp [first]

theorem requirement?_of_examine {finding : Finding}
    (examined : setting.examine finding.constraint = .ok finding) :
    setting.requirement? finding.constraint = finding.requirement := by
  obtain ⟨left, right, found, _, _, _, required⟩ := examine_eq_ok.mp examined
  rw [required, requirement?, found]

/-- The findings that are reported are those of the constraints that convert first. -/
theorem reported_eq_firsts {findings : List Finding}
    (examined : ∀ finding ∈ findings, setting.examine finding.constraint = .ok finding)
    {ledger : Ledger} {seen : List ConversionKey}
    (known : ∀ key, key ∈ ledger.seen.keys ↔ key ∈ seen) :
    (Finding.reported ledger findings).map Finding.constraint =
      setting.firsts seen (findings.map Finding.constraint) := by
  induction findings generalizing ledger seen with
  | nil => rfl
  | cons finding rest ih =>
    have converts : setting.Converts finding.constraint ↔ finding.requirement.isSome = true := by
      rw [converts_iff, requirement?_of_examine (examined finding List.mem_cons_self)]
    have first : finding.IsReported ledger ↔ setting.IsFirst seen [] finding.constraint := by
      rw [isFirst_iff, converts, ← known]
      simp [Finding.IsReported]
    -- Behind this finding the ledger and the list of seen keys still hold the same keys.
    have knownBehind : ∀ key, key ∈ (finding.enter ledger).seen.keys ↔
        key ∈ if setting.Converts finding.constraint then finding.constraint.key :: seen else seen := by
      intro key
      rw [Finding.mem_keys_enter, known, ← converts]
      by_cases own : setting.Converts finding.constraint
      · simp [own, eq_comm, or_comm]
      · simp [own]
    have later := ih (fun other member => examined other (List.mem_cons_of_mem _ member)) knownBehind
    rw [Finding.reported, List.map_append, later, List.map_cons, firsts_cons]
    by_cases reports : finding.IsReported ledger
    · simp only [if_pos reports, if_pos (first.mp reports)]
      rfl
    · simp only [if_neg reports, if_neg fun isFirst => reports (first.mpr isFirst)]
      rfl

theorem reports_of_examine {finding : Finding}
    (examined : setting.examine finding.constraint = .ok finding)
    (required : finding.requirement.isSome = true) :
    setting.Reports finding.constraint finding.lines := by
  obtain ⟨requirement, required⟩ := Option.isSome_iff_exists.mp required
  obtain ⟨left, right, found, _, _, name, own⟩ := examine_eq_ok.mp examined
  refine ⟨left, requirement.attributed, requirement.conversion, (ends_eq_ok.mp found).1,
    requires_of_requirementOn found (own.symm.trans required), ?_⟩
  rw [Finding.lines, required, name, Typing.displayName_eq]
  rfl

end Setting

namespace Finding

theorem mem_reported {ledger : Ledger} {findings : List Finding} {finding : Finding}
    (reports : finding ∈ reported ledger findings) :
    finding ∈ findings ∧ finding.requirement.isSome = true := by
  induction findings generalizing ledger with
  | nil => cases reports
  | cons first rest ih =>
    rcases List.mem_append.mp reports with own | later
    · split at own
      · next reportsFirst =>
        obtain rfl := List.mem_singleton.mp own
        exact ⟨List.mem_cons_self, reportsFirst.1⟩
      · cases own
    · obtain ⟨member, required⟩ := ih later
      exact ⟨List.mem_cons_of_mem _ member, required⟩

/-- A finding without the identifier that its conversion is attributed to. -/
def unattributed (finding : Finding) : Finding :=
  { finding with
    requirement := finding.requirement.map fun requirement => { requirement with attributed := "" } }

/-- Attribution has no say in what is reported. -/
theorem reported_unattributed (ledger : Ledger) (findings : List Finding) :
    reported ledger (findings.map unattributed) = (reported ledger findings).map unattributed := by
  apply reported_map unattributed
  · intro finding
    rfl
  · intro finding
    simp [unattributed]
  · rfl

theorem lines_unattributed (finding : Finding) : finding.unattributed.lines = finding.lines := by
  unfold lines unattributed
  cases finding.requirement <;> rfl

theorem lines_reported_unattributed (ledger : Ledger) (findings : List Finding) :
    (reported ledger (findings.map unattributed)).flatMap lines =
      (reported ledger findings).flatMap lines := by
  rw [reported_unattributed, List.flatMap_map]
  simp only [lines_unattributed]

theorem seenEntry_reported_unattributed (ledger : Ledger) (findings : List Finding) :
    (reported ledger (findings.map unattributed)).map seenEntry =
      (reported ledger findings).map seenEntry := by
  rw [reported_unattributed, List.map_map]
  rfl

end Finding

namespace Setting
variable {setting : Setting}

/-- A check that completes reports, in the order of the constraints, the first conversion under each key
that was not seen before, and no other. Its lines are the diagnostics that come in, they are written out
each with its line end, and those keys are what comes to be seen, each with the constraint that was
reported. There are two lines for each of them, whatever identifiers the conversions are attributed to. -/
theorem diagnostics_check {progress : Progress} {constraints : List Constraint}
    (completed : (setting.check progress constraints).2 = none) :
    let after := (setting.check progress constraints).1
    let firsts := setting.firsts progress.ledger.seen.keys constraints
    ∃ blocks, List.Forall₂ setting.Reports firsts blocks ∧
      after.diagnostics = progress.diagnostics ++ blocks.flatten ∧
      after.written = progress.written ++ linesText blocks.flatten ∧
      after.ledger.seen.entries = progress.ledger.seen.entries ++
        firsts.map (fun constraint => (constraint.key, constraint.sighting)) ∧
      blocks.flatten.length + 2 * progress.ledger.size = 2 * after.ledger.size ∧
      ∀ others : List Finding,
        others.map Finding.unattributed =
          (setting.survey constraints).1.map Finding.unattributed →
        (others.foldl Progress.note progress).diagnostics = after.diagnostics ∧
          (others.foldl Progress.note progress).written = after.written ∧
          (others.foldl Progress.note progress).ledger.seen = after.ledger.seen := by
  intro after firsts
  obtain ⟨findings, surveyed, ledger, _⟩ := check_completes completed
  obtain ⟨diagnostics, written⟩ := diagnostics_of_surveyed surveyed progress
  obtain ⟨order, examined⟩ := survey_completes.mp surveyed
  have known : (Finding.reported progress.ledger findings).map Finding.constraint = firsts := by
    simp only [firsts, ← order]
    exact reported_eq_firsts examined fun _ => Iff.rfl
  have seen : after.ledger.seen.entries = progress.ledger.seen.entries ++
      (Finding.reported progress.ledger findings).map Finding.seenEntry := by
    rw [ledger, Finding.seen_foldl_enter]
  refine ⟨(Finding.reported progress.ledger findings).map Finding.lines, ?_, ?_, ?_, ?_, ?_, ?_⟩
  · rw [← known, List.forall₂_map_left_iff, List.forall₂_map_right_iff, List.forall₂_same]
    intro finding reports
    obtain ⟨member, required⟩ := Finding.mem_reported reports
    exact reports_of_examine (examined finding member) required
  · rw [diagnostics, List.flatMap_def]
  · rw [written, List.flatMap_def]
  · rw [seen, ← known, List.map_map]
    rfl
  · rw [← List.flatMap_def, ledger]
    exact Finding.length_lines_reported progress.ledger findings
  · intro others alike
    rw [surveyed] at alike
    have lines := Finding.lines_reported_unattributed progress.ledger
    have entries := Finding.seenEntry_reported_unattributed progress.ledger
    obtain ⟨othersDiagnostics, othersWritten⟩ := Progress.diagnostics_foldl_note others progress
    refine ⟨?_, ?_, ?_⟩
    · rw [othersDiagnostics, diagnostics, ← lines others, alike, lines findings]
    · rw [othersWritten, written, ← lines others, alike, lines findings]
    · rw [Progress.ledger_foldl_note]
      refine congrArg Table.mk ?_
      rw [seen, Finding.seen_foldl_enter, ← entries others, alike, entries findings]

/-- Two variables under the default hierarchy, one deterministic and one random, and a view of the first
one. -/
def sharedView : Setting where
  store := { references := [
    ⟨⟨0, "a"⟩, .variable, some "a"⟩, ⟨⟨1, "view"⟩, .adapt ⟨0, "a"⟩, none⟩,
    ⟨⟨2, "b"⟩, .variable, some "b"⟩] }
  typing := ⟨⟨[
    (⟨0, "a"⟩, { name := "total", resolved := Hierarchy.schemes.find? "DET" }),
    (⟨1, "view"⟩, { name := "view", resolved := Hierarchy.schemes.find? "DET" }),
    (⟨2, "b"⟩, { name := "b", resolved := Hierarchy.schemes.find? "RND" })]⟩⟩
  hierarchy := .schemes
  severity := fun _ => .error

/-- The view is shown by the name of what it views. A constraint that requires nothing takes up no key, and
a key that was seen, before the check or in it, is not reported again. -/
theorem diagnostics_check_sharedView :
    let progress : Progress := {
      ledger := { seen := ⟨[(⟨9, "a"⟩, ⟨⟨"a", "b", 9, "", .digits⟩, .digits⟩)]⟩ } }
    let constraints : List Constraint := [
      ⟨"view", "a", 4, "", .digits⟩, ⟨"view", "b", 4, "", .digits⟩, ⟨"a", "b", 9, "", .digits⟩,
      ⟨"view", "b", 4, "again", .digits⟩, ⟨"a", "b", 4, "", .digits⟩]
    (sharedView.check progress constraints).2 = none ∧
      ∃ blocks, List.Forall₂ sharedView.Reports
          [⟨"view", "b", 4, "", .digits⟩, ⟨"a", "b", 4, "", .digits⟩] blocks ∧
        (sharedView.check progress constraints).1.diagnostics = blocks.flatten ∧
        blocks.flatten = ["view <: b @ 4", "Line 4: total DET => RND", "a <: b @ 4",
          "Line 4: total DET => RND"] := by
  intro progress constraints
  have completed : (sharedView.check progress constraints).2 = none := by
    decide +kernel
  have firsts : sharedView.firsts progress.ledger.seen.keys constraints =
      [⟨"view", "b", 4, "", .digits⟩, ⟨"a", "b", 4, "", .digits⟩] := by
    decide +kernel
  have emitted : (sharedView.check progress constraints).1.diagnostics = ["view <: b @ 4",
      "Line 4: total DET => RND", "a <: b @ 4", "Line 4: total DET => RND"] := by
    decide +kernel
  obtain ⟨blocks, reports, diagnostics, _⟩ := diagnostics_check completed
  rw [firsts] at reports
  have diagnostics : (sharedView.check progress constraints).1.diagnostics = blocks.flatten := diagnostics
  exact ⟨completed, blocks, reports, diagnostics, diagnostics.symm.trans emitted⟩

end Setting
end SchemeTyping
