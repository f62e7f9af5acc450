import Mathlib
import SchemeTyping.Hierarchy.Schemes
import SchemeTyping.Proofs.Extraction.Collection
import SchemeTyping.Proofs.Extraction.Repetition
import SchemeTyping.Proofs.Reference.Store
import SchemeTyping.Workbench

/-! Passes one after the other over a shared ledger. Together they are one pass over all constraints; and
a pass that is repeated reports nothing new, but records its conversions again. -/
namespace SchemeTyping

/-- What two extractions yield together, the later one over what the earlier one left. -/
def Extraction.followedBy (earlier later : Extraction) : Extraction where
  violations := earlier.violations ++ later.violations
  ledger := later.ledger
  diagnostics := earlier.diagnostics ++ later.diagnostics
  considered := later.considered
  checked := earlier.checked + later.checked

namespace Finding

/-- Identifiers that conversions were recorded under keep their places; new ones come behind. -/
theorem keys_conversions_enter {ledger : Ledger} {finding : Finding}
    (known : ∀ requirement ∈ finding.requirement,
      requirement.attributed ∈ ledger.conversions.keys) :
    (finding.enter ledger).conversions.keys = ledger.conversions.keys := by
  unfold enter
  cases required : finding.requirement with
  | none => rfl
  | some requirement =>
    simp only [Ledger.record, Table.keys_put, if_pos (known requirement required)]

theorem mem_keys_conversions_enter {ledger : Ledger} {finding : Finding} {identifier : String} :
    identifier ∈ (finding.enter ledger).conversions.keys ↔ identifier ∈ ledger.conversions.keys ∨
      ∃ requirement ∈ finding.requirement, requirement.attributed = identifier := by
  unfold enter
  cases required : finding.requirement with
  | none => simp
  | some requirement =>
    simp only [Ledger.record, Table.keys_put, Option.mem_def, Option.some.injEq, exists_eq_left']
    split
    · next known =>
      constructor
      · exact .inl
      · rintro (old | rfl)
        · exact old
        · exact known
    · rw [List.mem_append, List.mem_singleton]
      exact or_congr_right eq_comm

theorem mem_keys_conversions_foldl_enter {ledger : Ledger} {findings : List Finding}
    {identifier : String} : identifier ∈ (findings.foldl enter ledger).conversions.keys ↔
      identifier ∈ ledger.conversions.keys ∨ ∃ finding ∈ findings,
        ∃ requirement ∈ finding.requirement, requirement.attributed = identifier := by
  induction findings generalizing ledger with
  | nil => simp
  | cons finding rest ih =>
    rw [List.foldl_cons, ih, mem_keys_conversions_enter, or_assoc]
    simp only [List.mem_cons, exists_eq_or_imp]

/-- Entering findings again adds no identifier. -/
theorem keys_conversions_again (ledger : Ledger) (findings : List Finding) :
    (findings.foldl enter (findings.foldl enter ledger)).conversions.keys =
      (findings.foldl enter ledger).conversions.keys := by
  have known : ∀ finding ∈ findings, ∀ requirement ∈ finding.requirement,
      requirement.attributed ∈ (findings.foldl enter ledger).conversions.keys :=
    fun finding member requirement required =>
      mem_keys_conversions_foldl_enter.mpr (.inr ⟨finding, member, requirement, required, rfl⟩)
  -- Once all the identifiers are there, it no longer matters how the ledger came to hold them.
  generalize findings.foldl enter ledger = start at known
  induction findings generalizing start with
  | nil => rfl
  | cons finding rest ih =>
    have kept := keys_conversions_enter (known finding List.mem_cons_self)
    rw [List.foldl_cons, ih (finding.enter start), kept]
    intro other member requirement required
    rw [kept]
    exact known other (List.mem_cons_of_mem _ member) requirement required

/-- Entering findings again reports none of them. -/
theorem reported_again (ledger : Ledger) (findings : List Finding) :
    reported (findings.foldl enter ledger) findings = [] :=
  reported_of_seen fun finding member required =>
    mem_keys_foldl_enter.mpr (.inr ⟨finding, member, required, rfl⟩)

end Finding

namespace Setting
variable {setting : Setting} {first second : List Constraint} {ledger : Ledger}
  {earlier : Extraction}

/-- The setting as a pass leaves it. -/
def after (setting : Setting) (pass : Pass) : Setting := { setting with typing := pass.typing }

/-- What a completed pass leaves to a later one: a typing over which assignment changes nothing any more, and
the ledger that its findings were entered into. -/
theorem extract_leaves (completed : (setting.extract first ledger).result = .ok earlier) :
    let once := setting.extract first ledger
    ∃ typing findings,
      setting.hierarchy.assignAll setting.typing setting.store.references = (typing, none) ∧
      setting.hierarchy.assignAll typing setting.store.references = (typing, none) ∧
      { setting with typing }.survey first = (findings, none) ∧
      earlier = setting.extractionOf first ledger findings ∧
      setting.after once = { setting with typing } ∧
      once.ledger = findings.foldl Finding.enter ledger := by
  intro once
  obtain ⟨typing, findings, assigned, surveyed, yields⟩ := extract_eq_ok completed
  obtain ⟨settled, entered, _⟩ := extract_of_surveyed setting ledger assigned surveyed
  refine ⟨typing, findings, assigned, ?_, surveyed, yields, ?_, entered⟩
  · exact Hierarchy.assignAll_again setting.store.nodup_entities assigned
  · rw [after, settled]

/-- A pass over what an earlier pass left goes on where that one ended. -/
theorem extract_after (completed : (setting.extract first ledger).result = .ok earlier)
    (second : List Constraint) :
    let once := setting.extract first ledger
    let twice := (setting.after once).extract second once.ledger
    let whole := setting.extract (first ++ second) ledger
    twice.typing = whole.typing ∧ twice.ledger = whole.ledger ∧
      once.written ++ twice.written = whole.written ∧
      whole.result = twice.result.map earlier.followedBy := by
  intro once twice whole
  obtain ⟨typing, findings, assigned, again, surveyed, rfl, left, entered⟩ := extract_leaves completed
  have goesOn : twice = { setting with typing }.extract second (findings.foldl Finding.enter ledger) := by
    simp only [twice, once, left, entered]
  obtain ⟨_, _, onceWritten, _⟩ := extract_of_surveyed setting ledger assigned surveyed
  cases later : { setting with typing }.survey second with
  | mk others failure =>
    have both := survey_append surveyed second
    rw [later] at both
    obtain ⟨twiceTyping, twiceLedger, twiceWritten, twiceResult⟩ := extract_of_surveyed
      { setting with typing } (findings.foldl Finding.enter ledger) again later
    obtain ⟨wholeTyping, wholeLedger, wholeWritten, wholeResult⟩ :=
      extract_of_surveyed setting ledger assigned both
    rw [goesOn]
    refine ⟨twiceTyping.trans wholeTyping.symm, ?_, ?_, ?_⟩
    · rw [twiceLedger, wholeLedger, List.foldl_append]
    · rw [onceWritten, twiceWritten, wholeWritten, Finding.reported_append, List.flatMap_append,
        linesText_append]
    · rw [twiceResult, wholeResult]
      cases failure with
      | some failure => rfl
      | none =>
        simp only [Option.elim, Except.map, Extraction.followedBy, extractionOf, List.filter_append,
          List.map_append, List.foldl_append, Finding.reported_append, List.flatMap_append,
          List.length_append]

/-- A pass that is repeated finds what it found, reports none of it and records the same conversions once
more. -/
theorem extract_repeated (completed : (setting.extract first ledger).result = .ok earlier) :
    let once := setting.extract first ledger
    let again := (setting.after once).extract first once.ledger
    again.result = .ok { earlier with ledger := again.ledger, diagnostics := [] } ∧
      again.typing = once.typing ∧ again.written = "" ∧ again.ledger.seen = once.ledger.seen ∧
      again.ledger.conversions.keys = once.ledger.conversions.keys ∧
      ∀ identifier, ∃ added,
        once.ledger.conversionsFor identifier = ledger.conversionsFor identifier ++ added ∧
        again.ledger.conversionsFor identifier =
          once.ledger.conversionsFor identifier ++ added := by
  intro once again
  obtain ⟨typing, findings, _, rests, surveyed, rfl, left, entered⟩ := extract_leaves completed
  have goesOn : again = { setting with typing }.extract first (findings.foldl Finding.enter ledger) := by
    simp only [again, once, left, entered]
  have settled : once.typing = typing := congrArg Setting.typing left
  have entered : once.ledger = findings.foldl Finding.enter ledger := entered
  -- Every key that the findings require under was seen the first time.
  have silent := Finding.reported_again ledger findings
  obtain ⟨kept, reentered, written, result⟩ := extract_of_surveyed { setting with typing }
    (findings.foldl Finding.enter ledger) rests surveyed
  rw [← goesOn] at kept reentered written result
  refine ⟨?_, kept.trans settled.symm, ?_, ?_, ?_, fun identifier =>
    ⟨findings.flatMap (Finding.addition identifier), ?_, ?_⟩⟩
  · rw [result, reentered]
    simp only [Option.elim, extractionOf, silent]
    rfl
  · rw [written, silent]
    rfl
  · rw [reentered, entered]
    refine congrArg Table.mk ?_
    rw [Finding.seen_foldl_enter, silent]
    exact List.append_nil _
  · rw [reentered, entered, Finding.keys_conversions_again]
  · rw [entered, Finding.conversionsFor_foldl_enter]
  · rw [reentered, entered, Finding.conversionsFor_foldl_enter]

end Setting

namespace Workbench
variable {bench : Workbench}

/-- A pass with the shared ledger changes that very ledger, be it empty or not, and the typing, and
replaces nothing else that a later pass reads. -/
theorem extract_shared (present : bench.shared < bench.ledgers.length) (constraints : List Constraint) :
    let pass := bench.setting.extract constraints bench.ledger
    let next := (bench.extract constraints true).1
    next.setting = bench.setting.after pass ∧ next.shared = bench.shared ∧
      next.ledgers = bench.ledgers.set bench.shared pass.ledger ∧ next.ledger = pass.ledger := by
  intro pass next
  have whole : next.setting = bench.setting.after pass ∧ next.shared = bench.shared ∧
      next.ledgers = bench.ledgers.set bench.shared pass.ledger := by
    simp only [next, extract, if_true]
    split <;> exact ⟨rfl, rfl, rfl⟩
  obtain ⟨setting, shared, ledgers⟩ := whole
  refine ⟨setting, shared, ledgers, ?_⟩
  rw [ledger, ledgerAt, shared, ledgers, List.getElem?_set_self present]
  rfl

end Workbench

namespace Setting
variable {setting : Setting} {first : List Constraint} {ledger : Ledger} {earlier : Extraction}

/-- Passes over a shared ledger compose: a second pass over what a completed one left leaves the typing
and the ledger of one pass over all constraints, which fails exactly if the second one does and otherwise
yields what the two yield together. A completed pass that is repeated emits no line and leaves what was
seen alone, but appends the same conversions once more. On a workbench the ledger that is shared is the
one that grows, be it empty or not. -/
theorem extract_append (completed : (setting.extract first ledger).result = .ok earlier)
    (second : List Constraint) :
    let once := setting.extract first ledger
    let twice := (setting.after once).extract second once.ledger
    let whole := setting.extract (first ++ second) ledger
    let again := (setting.after once).extract first once.ledger
    (twice.typing = whole.typing ∧ twice.ledger = whole.ledger ∧
      once.written ++ twice.written = whole.written ∧
      whole.result = twice.result.map earlier.followedBy) ∧
    (again.result = .ok { earlier with ledger := again.ledger, diagnostics := [] } ∧
      again.typing = once.typing ∧ again.written = "" ∧ again.ledger.seen = once.ledger.seen ∧
      again.ledger.conversions.keys = once.ledger.conversions.keys ∧
      ∀ identifier, ∃ added,
        once.ledger.conversionsFor identifier = ledger.conversionsFor identifier ++ added ∧
        again.ledger.conversionsFor identifier =
          once.ledger.conversionsFor identifier ++ added) ∧
    ∀ bench : Workbench, bench.setting = setting → bench.shared < bench.ledgers.length →
      bench.ledger = ledger →
      let shared := ((bench.extract first true).1.extract second true).1
      let single := (bench.extract (first ++ second) true).1
      shared.typing = single.typing ∧ shared.ledgers = single.ledgers := by
  intro once twice whole again
  obtain ⟨typing, grown, written, result⟩ := extract_after completed second
  refine ⟨⟨typing, grown, written, result⟩, extract_repeated completed, ?_⟩
  rintro bench rfl present rfl shared single
  obtain ⟨onceSetting, onceShared, onceLedgers, onceLedger⟩ := Workbench.extract_shared present first
  have stillPresent : (bench.extract first true).1.shared <
      (bench.extract first true).1.ledgers.length := by
    rw [onceShared, onceLedgers, List.length_set]
    exact present
  obtain ⟨twiceSetting, _, twiceLedgers, _⟩ := Workbench.extract_shared stillPresent second
  obtain ⟨wholeSetting, _, wholeLedgers, _⟩ := Workbench.extract_shared present (first ++ second)
  rw [onceSetting, onceLedger] at twiceSetting twiceLedgers
  refine ⟨?_, ?_⟩
  · have reached : shared.typing = twice.typing := congrArg Setting.typing twiceSetting
    have expected : single.typing = whole.typing := congrArg Setting.typing wholeSetting
    rw [reached, expected, typing]
  · rw [twiceLedgers, wholeLedgers, onceShared, onceLedgers, List.set_set]
    exact congrArg (bench.ledgers.set bench.shared) grown

/-- Two variables under the default hierarchy, not resolved yet: one may be random or deterministic, the
other is deterministic. -/
def twoCandidates : Setting where
  store := { references := [⟨⟨0, "a"⟩, .variable, some "a"⟩, ⟨⟨1, "b"⟩, .variable, some "b"⟩] }
  typing := ⟨⟨[
    (⟨0, "a"⟩, Profile.initial "a" ""
      (["DET", "RND"].filterMap Hierarchy.schemes.find?) none),
    (⟨1, "b"⟩, Profile.initial "b" "" (["DET"].filterMap Hierarchy.schemes.find?) none)]⟩⟩
  hierarchy := .schemes
  severity := fun _ => .error

set_option maxRecDepth 2000 in
/-- From an empty ledger: the second pass meets a key of the first one and a new one. -/
theorem extract_append_twoCandidates :
    let first : List Constraint := [⟨"a", "b", 7, "", .digits⟩]
    let second : List Constraint := [⟨"a", "b", 7, "again", .digits⟩, ⟨"b", "a", 9, "", .digits⟩]
    let once := twoCandidates.extract first Ledger.empty
    ∃ earlier later, once.result = .ok earlier ∧
      ((twoCandidates.after once).extract second once.ledger).result = .ok later ∧
      earlier.diagnostics ++ later.diagnostics =
        ["a <: b @ 7", "Line 7: a RND => DET", "b <: a @ 9", "Line 9: b DET => RND"] := by
  intro first second once
  have started : (twoCandidates.extract [⟨"a", "b", 7, "", .digits⟩]
      Ledger.empty).result.toOption.map Extraction.checked = some 1 := by
    cbv
  have evaluated : (twoCandidates.extract [⟨"a", "b", 7, "", .digits⟩, ⟨"a", "b", 7, "again", .digits⟩,
      ⟨"b", "a", 9, "", .digits⟩] Ledger.empty).result.toOption.map Extraction.diagnostics =
        some ["a <: b @ 7", "Line 7: a RND => DET", "b <: a @ 9", "Line 9: b DET => RND"] := by
    cbv
  obtain ⟨earlier, completed, _⟩ := Outcome.exists_of_toOption_map started
  obtain ⟨whole, reached, lines⟩ := Outcome.exists_of_toOption_map evaluated
  obtain ⟨⟨_, _, _, result⟩, _⟩ := extract_append completed second
  obtain ⟨later, follows, rfl⟩ := Outcome.map_eq_ok.mp (result.symm.trans reached)
  exact ⟨earlier, later, completed, follows, lines⟩

end Setting
end SchemeTyping
