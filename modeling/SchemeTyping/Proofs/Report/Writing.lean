import SchemeTyping.Proofs.Extraction.Collection
import SchemeTyping.Proofs.Extraction.Conversions
import SchemeTyping.Proofs.Json.RoundTrip
import SchemeTyping.Proofs.Text.Numeral
import SchemeTyping.Report

/-! When reports can be written: exactly if each position in them can. A pass puts no positions into its
results but those of its constraints and those that its ledger held before. -/
namespace SchemeTyping

namespace Json

theorem Value.isWritable_list (items : List Value) :
    (Value.list items).isWritable = items.all Value.isWritable := by
  rw [Bool.eq_iff_iff]
  simp only [Value.isWritable, Value.numbers, List.all_eq_true, mem_itemNumbers]
  exact ⟨fun each item member number inside => each number ⟨item, member, inside⟩,
    fun each number ⟨item, member, inside⟩ => each item member number inside⟩

theorem Value.isWritable_record (fields : List (String × Value)) :
    (Value.record fields).isWritable = fields.all fun field => field.2.isWritable := by
  rw [Bool.eq_iff_iff]
  simp only [Value.isWritable, Value.numbers, List.all_eq_true, mem_fieldNumbers]
  exact ⟨fun each field member number inside => each number ⟨field, member, inside⟩,
    fun each number ⟨field, member, inside⟩ => each field member number inside⟩

theorem Value.isWritable_text (text : String) : (Value.text text).isWritable = true := rfl

theorem Value.isWritable_ofNumber (number : Int) (spelling : Text.Spelling) :
    (Value.ofNumber number spelling).isWritable = spelling.writes number := by
  cases spelling with
  | digits => exact Bool.and_true _
  | truth => rfl

end Json

/-- A synthetic constraint can be written, since its position is zero. -/
theorem Constraint.isWritable_of_isSynthetic {constraint : Constraint}
    (synthetic : constraint.isSynthetic = true) : constraint.isWritable = true := by
  rw [isWritable, eq_of_beq synthetic]
  exact Text.Spelling.writes_of_hasNumeral _ (by decide)

theorem Ledger.isWritable_conversionJson (conversion : Conversion) :
    (conversionJson conversion).isWritable = conversion.isWritable := by
  simp only [conversionJson, Json.Value.isWritable_record, List.all_cons, List.all_nil, Bool.and_true,
    Json.Value.isWritable_text, Json.Value.isWritable_ofNumber, Conversion.isWritable]

/-- A ledger is written as JSON exactly if each of its conversions can be written. -/
theorem Ledger.isWritable_json (ledger : Ledger) :
    ledger.json.isWritable = ledger.toList.all fun listed => listed.2.isWritable := by
  simp only [json, toList, Json.Value.isWritable_record, Json.Value.isWritable_list, List.all_map,
    List.all_flatMap, Function.comp_def, isWritable_conversionJson]

namespace Report
variable {lookup : Option Lookup}

theorem isWritable_qualifierField (lookup : Option Lookup) (key identifier : String) :
    ((qualifierField lookup key identifier).all fun field => field.2.isWritable) = true := by
  unfold qualifierField
  split
  · rfl
  · split <;> rfl

theorem isWritable_violationJson (lookup : Option Lookup) (violation : Constraint) :
    (violationJson lookup violation).isWritable = violation.isWritable := by
  have label : ((if violation.label = "" then [] else [("label", Json.Value.text violation.label)]).all
      fun field => field.2.isWritable) = true := by
    split <;> rfl
  simp only [violationJson, Json.Value.isWritable_record, List.all_append, List.all_cons, List.all_nil,
    label, isWritable_qualifierField, Json.Value.isWritable_text, Json.Value.isWritable_ofNumber,
    Bool.and_true]
  rfl

/-- In either form violations can be written exactly if each of their positions can. -/
theorem canWrite_eq (violations : List Constraint) (lookup : Option Lookup) (format : Format) :
    canWrite violations lookup format = violations.all Constraint.isWritable := by
  cases format with
  | text =>
    refine List.all_congr rfl fun violation => ?_
    cases synthetic : violation.isSynthetic with
    | false => rfl
    | true => exact (Constraint.isWritable_of_isSynthetic synthetic).symm
  | json =>
    rw [canWrite, Json.Value.isWritable_list, List.all_map]
    exact List.all_congr rfl fun violation => isWritable_violationJson lookup violation

/-- A report as text needs the positions of the violations, a report as JSON those of the conversions
besides. -/
theorem write_eq (extraction : Extraction) (format : Format) (lookup : Option Lookup) :
    write extraction format lookup =
      if extraction.violations.all Constraint.isWritable &&
          (format = .text || extraction.ledger.toList.all fun listed => listed.2.isWritable) then
        .ok (print extraction format lookup)
      else .error .tooManyDigits := by
  rw [write, canWrite_eq, Ledger.isWritable_json, Text.whenWritable]

theorem writeLedger_eq (ledger : Ledger) :
    writeLedger ledger =
      if ledger.toList.all fun listed => listed.2.isWritable then .ok (ledgerJson ledger)
      else .error .tooManyDigits := by
  rw [writeLedger, Ledger.isWritable_json, Text.whenWritable]

end Report

/-- Both reports on an extraction are written as they stand, and so is its ledger. -/
structure Extraction.Reportable (extraction : Extraction) : Prop where
  report : ∀ format lookup,
    Report.write extraction format lookup = .ok (Report.print extraction format lookup)
  ledger : Report.writeLedger extraction.ledger = .ok (Report.ledgerJson extraction.ledger)

/-! ### Positions in the results of a pass -/

/-- What a finding requires is listed behind what a ledger lists. -/
theorem Finding.mem_toList_foldl_enter {findings : List Finding} {ledger : Ledger}
    {listed : String × Conversion} (member : listed ∈ (findings.foldl enter ledger).toList) :
    listed ∈ ledger.toList ∨ ∃ finding ∈ findings, ∃ requirement,
      finding.requirement = some requirement ∧ requirement.conversion = listed.2 := by
  induction findings generalizing ledger with
  | nil => exact .inl member
  | cons finding rest ih =>
    obtain before | ⟨later, known, requirement, required, same⟩ := ih member
    · rw [enter] at before
      split at before
      · exact .inl before
      · next requirement required =>
        obtain rfl | before := List.mem_cons.mp (Ledger.toList_record.mem_iff.mp before)
        · exact .inr ⟨finding, List.mem_cons_self, requirement, required, rfl⟩
        · exact .inl before
    · exact .inr ⟨later, List.mem_cons_of_mem _ known, requirement, required, same⟩

namespace Setting
variable {setting : Setting} {constraint : Constraint} {constraints : List Constraint}
  {left right : Reference} {requirement : Requirement} {ledger : Ledger} {extraction : Extraction}

/-- A conversion stands where the constraint does that requires it. -/
theorem isWritable_of_requirementOn (found : setting.ends constraint = .ok (left, right))
    (required : setting.requirementOn constraint left right = some requirement) :
    requirement.conversion.isWritable = constraint.isWritable := by
  obtain ⟨attributed, conversion⟩ := requirement
  have rule := requires_of_requirementOn found required
  generalize same : attributed = identifier at rule
  cases rule <;> rfl

/-- A pass over constraints that can be written, from a ledger that can be written, yields violations and
a ledger that can be written. -/
theorem isWritable_of_extract (completed : (setting.extract constraints ledger).result = .ok extraction)
    (written : ∀ constraint ∈ constraints, constraint.isWritable = true)
    (kept : ∀ listed ∈ ledger.toList, listed.2.isWritable = true) :
    (extraction.violations.all Constraint.isWritable) = true ∧
      (extraction.ledger.toList.all fun listed => listed.2.isWritable) = true := by
  obtain ⟨after, findings, _, surveyed, rfl⟩ := extract_eq_ok completed
  obtain ⟨rfl, examined⟩ := survey_completes.mp surveyed
  have places : ∀ finding ∈ findings, finding.constraint.isWritable = true :=
    fun finding member => written _ (List.mem_map_of_mem member)
  refine ⟨List.all_eq_true.mpr fun violation blamed => ?_, List.all_eq_true.mpr fun listed member => ?_⟩
  · obtain ⟨finding, violated, rfl⟩ := List.mem_map.mp blamed
    exact places finding (List.mem_filter.mp violated).1
  · obtain before | ⟨finding, known, requirement, required, same⟩ := Finding.mem_toList_foldl_enter member
    · exact kept listed before
    · obtain ⟨left, right, found, _, _, _, own⟩ := examine_eq_ok.mp (examined finding known)
      rw [← same, isWritable_of_requirementOn found (own.symm.trans required)]
      exact places finding known

/-- What such a pass yields is reported as it stands. -/
theorem reportable_of_extract (completed : (setting.extract constraints ledger).result = .ok extraction)
    (written : ∀ constraint ∈ constraints, constraint.isWritable = true)
    (kept : ∀ listed ∈ ledger.toList, listed.2.isWritable = true) : extraction.Reportable := by
  obtain ⟨violations, conversions⟩ := isWritable_of_extract completed written kept
  constructor
  · intro format lookup
    rw [Report.write_eq, violations, conversions, Bool.or_true, Bool.and_true, if_pos rfl]
  · rw [Report.writeLedger_eq, conversions, if_pos rfl]

end Setting
end SchemeTyping
