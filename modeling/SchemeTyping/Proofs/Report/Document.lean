import Mathlib.Algebra.Order.Group.Multiset
import Mathlib.Tactic.Abel
import SchemeTyping.Proofs.Conversion.Ledger
import SchemeTyping.Proofs.Json.RoundTrip
import SchemeTyping.Report

/-! Reports as documents. What is printed of an extraction is read back as it was, also by way of the text
of the violations alone; and the text of a ledger tells what stands under each identifier, and no more. -/
namespace SchemeTyping.Report
open Json
variable {accepts : Int → Bool} {extraction : Extraction} {ledger : Ledger} {violations : List Constraint}
  {lookup : Option Lookup} {violation : Constraint} {conversion : Conversion}

/-! ### Records with sorted keys -/

/-- The fields on a violation with their keys in order. -/
def violationEntry (lookup : Option Lookup) (violation : Constraint) : List (String × Value) :=
  (if violation.label = "" then [] else [("label", .text violation.label)]) ++
    [("left", .text violation.left)] ++ qualifierField lookup "left_qualifier" violation.left ++
    [("pos", .ofNumber violation.position violation.spelling), ("right", .text violation.right)] ++
    qualifierField lookup "right_qualifier" violation.right

/-- Violations as records, one behind the other. -/
def violationList (lookup : Option Lookup) (violations : List Constraint) : Value :=
  .list (violations.map fun violation => .record (violationEntry lookup violation))

/-- The fields on a conversion with their keys in order. -/
def conversionEntry (conversion : Conversion) : List (String × Value) :=
  [("from_type", .text conversion.source), ("pos", .ofNumber conversion.position conversion.spelling),
    ("to_type", .text conversion.target)]

/-- Conversions as records, one behind the other. -/
def conversionList (conversions : List Conversion) : Value :=
  .list (conversions.map fun conversion => .record (conversionEntry conversion))

/-- What stands under each identifier, as records. -/
def conversionTable (ledger : Ledger) : Table String Value :=
  ⟨ledger.conversions.entries.map fun entry => (entry.1, conversionList entry.2)⟩

/-- The conversions of each identifier in the order of the identifiers. -/
def conversionEntries (ledger : Ledger) : List (String × Value) :=
  sortFields (conversionTable ledger).entries

theorem sorted_ofNumber (number : Int) (spelling : Text.Spelling) :
    (Value.ofNumber number spelling).sorted = .ofNumber number spelling := by
  cases spelling <;> rfl

theorem distinct_ofNumber (number : Int) (spelling : Text.Spelling) :
    (Value.ofNumber number spelling).Distinct := by
  cases spelling with
  | digits => exact .number _
  | truth => exact .flag _

theorem mem_numbers_ofNumber {number position : Int} {spelling : Text.Spelling} :
    number ∈ (Value.ofNumber position spelling).numbers ↔ spelling = .digits ∧ number = position := by
  cases spelling <;> simp [Value.ofNumber, Value.numbers]

theorem qualifierField_cases (lookup : Option Lookup) (key identifier : String) :
    qualifierField lookup key identifier = [] ∨
      ∃ name, qualifierField lookup key identifier = [(key, .text name)] := by
  unfold qualifierField
  split
  · exact .inl rfl
  · split
    · exact .inr ⟨_, rfl⟩
    · exact .inl rfl

theorem keys_qualifierField (lookup : Option Lookup) (key identifier : String) :
    ((qualifierField lookup key identifier).map Prod.fst).Sublist [key] := by
  obtain none | ⟨name, own⟩ := qualifierField_cases lookup key identifier
  · rw [none]
    exact List.nil_sublist _
  · rw [own]
    exact List.Sublist.refl _

/-- The keys that a record on a violation may have, in order. -/
def violationKeys : List String := ["label", "left", "left_qualifier", "pos", "right", "right_qualifier"]

theorem keys_violationEntry (lookup : Option Lookup) (violation : Constraint) :
    ((violationEntry lookup violation).map Prod.fst).Sublist violationKeys := by
  have label : ((if violation.label = "" then [] else
      [("label", Value.text violation.label)]).map Prod.fst).Sublist ["label"] := by
    split
    · exact List.nil_sublist _
    · exact List.Sublist.refl _
  simp only [violationEntry, List.map_append]
  exact (((label.append (List.Sublist.refl ["left"])).append (keys_qualifierField _ _ _)).append
    (List.Sublist.refl ["pos", "right"])).append (keys_qualifierField _ _ _)

/-- Every field on a violation is a text or its position. -/
theorem values_violationEntry {field : String × Value}
    (member : field ∈ violationEntry lookup violation) : (∃ text, field.2 = .text text) ∨
      field.2 = .ofNumber violation.position violation.spelling := by
  have qualifier : ∀ key identifier, field ∈ qualifierField lookup key identifier →
      ∃ text, field.2 = .text text := by
    intro key identifier listed
    obtain none | ⟨name, own⟩ := qualifierField_cases lookup key identifier
    · rw [none] at listed
      cases listed
    · rw [own, List.mem_singleton] at listed
      exact ⟨name, by rw [listed]⟩
  simp only [violationEntry, List.mem_append, List.mem_cons, List.not_mem_nil, or_false] at member
  obtain (((labelled | rfl) | listed) | (rfl | rfl)) | listed := member
  · split at labelled
    · cases labelled
    · obtain rfl := List.mem_singleton.mp labelled
      exact .inl ⟨_, rfl⟩
  · exact .inl ⟨_, rfl⟩
  · exact .inl (qualifier _ _ listed)
  · exact .inr rfl
  · exact .inl ⟨_, rfl⟩
  · exact .inl (qualifier _ _ listed)

theorem sorted_record (fields : List (String × Value)) : (Value.record fields).sorted =
    .record (sortFields (fields.map fun field => (field.1, field.2.sorted))) := by
  rw [Value.sorted, sortedFields_eq]

/-- A record of sorted values is sorted to the same fields with their keys in order. -/
theorem sorted_record_of_perm (keys : List String) {fields entry : List (String × Value)}
    (listed : (entry.map Prod.fst).Sublist keys) (same : fields.Perm entry)
    (values : ∀ field ∈ entry, field.2.sorted = field.2) (ordered : keys.Pairwise (· < ·)) :
    (Value.record fields).sorted = .record entry := by
  have kept : fields.map (fun field => (field.1, field.2.sorted)) = fields.map id :=
    List.map_congr_left fun field member => Prod.ext rfl (values field (same.mem_iff.mp member))
  rw [sorted_record, kept, List.map_id, sortFields_of_sublist keys listed same ordered]

theorem sorted_values_violationEntry {field : String × Value}
    (member : field ∈ violationEntry lookup violation) : field.2.sorted = field.2 := by
  obtain ⟨text, own⟩ | own := values_violationEntry member
  · rw [own]
    rfl
  · rw [own, sorted_ofNumber]

theorem sorted_violationEntry (lookup : Option Lookup) (violation : Constraint) :
    (Value.record (violationEntry lookup violation)).sorted =
      .record (violationEntry lookup violation) :=
  sorted_record_of_perm violationKeys (keys_violationEntry lookup violation) (.refl _)
    (fun _ => sorted_values_violationEntry) (by decide)

theorem sorted_violationJson (lookup : Option Lookup) (violation : Constraint) :
    (violationJson lookup violation).sorted = .record (violationEntry lookup violation) := by
  refine sorted_record_of_perm violationKeys (keys_violationEntry lookup violation) ?_
    (fun _ => sorted_values_violationEntry) (by decide)
  simp only [violationEntry, ← Multiset.coe_eq_coe, ← Multiset.coe_add, ← Multiset.cons_coe,
    ← Multiset.singleton_add, Multiset.coe_nil]
  abel

theorem sorted_violations (lookup : Option Lookup) (violations : List Constraint) :
    (Value.list (violations.map (violationJson lookup))).sorted = violationList lookup violations := by
  rw [Value.sorted, sortedItems_eq, List.map_map]
  exact congrArg Value.list (List.map_congr_left fun violation _ => sorted_violationJson lookup violation)

theorem sorted_violationList (lookup : Option Lookup) (violations : List Constraint) :
    (violationList lookup violations).sorted = violationList lookup violations := by
  rw [violationList, Value.sorted, sortedItems_eq, List.map_map]
  exact congrArg Value.list (List.map_congr_left fun violation _ => sorted_violationEntry lookup violation)

theorem sorted_conversionJson (conversion : Conversion) :
    (Ledger.conversionJson conversion).sorted = .record (conversionEntry conversion) := by
  refine sorted_record_of_perm ["from_type", "pos", "to_type"] (List.Sublist.refl _) (.swap _ _ _) ?_
    (by decide)
  simp only [conversionEntry, List.forall_mem_cons, sorted_ofNumber]
  simp [Value.sorted]

theorem sorted_ledgerJson (ledger : Ledger) : ledger.json.sorted = .record (conversionEntries ledger) := by
  rw [Ledger.json, sorted_record, conversionEntries, List.map_map]
  simp only [Function.comp_def, Value.sorted, sortedItems_eq, List.map_map, sorted_conversionJson,
    conversionTable, conversionList]

/-- The fields on an extraction with their keys in order. -/
def documentEntries (extraction : Extraction) (lookup : Option Lookup) : List (String × Value) :=
  [("constraints_checked", .number extraction.checked),
    ("conversions", .record (conversionEntries extraction.ledger)),
    ("violation_count", .number extraction.violations.length),
    ("violations", violationList lookup extraction.violations)]

/-- A record of the four fields is sorted to these, whether the violations in it are sorted or not. -/
theorem sorted_of_violations {shown : Value} (same : shown.sorted = violationList lookup extraction.violations) :
    (Value.record [("violation_count", .number extraction.violations.length), ("violations", shown),
      ("conversions", extraction.ledger.json), ("constraints_checked", .number extraction.checked)]).sorted =
      .record (documentEntries extraction lookup) := by
  rw [sorted_record]
  refine congrArg _ (sortFields_of_sublist ["constraints_checked", "conversions", "violation_count",
    "violations"] (List.Sublist.refl _) ?_ (by decide))
  simp only [documentEntries, List.map_cons, List.map_nil, sorted_ledgerJson, Value.sorted, same,
    ← Multiset.coe_eq_coe, ← Multiset.cons_coe, ← Multiset.singleton_add, Multiset.coe_nil]
  abel

theorem sorted_document (extraction : Extraction) (lookup : Option Lookup) :
    (document extraction lookup).sorted = .record (documentEntries extraction lookup) :=
  sorted_of_violations (sorted_violations lookup extraction.violations)

theorem sorted_violationsRecord (violations : List Constraint) (lookup : Option Lookup) :
    (Value.record (violationFields violations lookup)).sorted =
      .record [("violation_count", .number violations.length),
        ("violations", violationList lookup violations)] := by
  rw [sorted_record]
  refine congrArg _ (sortFields_of_sublist ["violation_count", "violations"] (List.Sublist.refl _) ?_
    (by decide))
  rw [violationFields, List.map_cons, List.map_cons, sorted_violations]
  exact .refl _

theorem sorted_ledgerRecord (ledger : Ledger) : (Value.record [("conversion_count", .number ledger.total),
    ("conversions", ledger.json)]).sorted = .record [("conversion_count", .number ledger.total),
      ("conversions", .record (conversionEntries ledger))] := by
  rw [sorted_record]
  refine congrArg _ (sortFields_of_sublist ["conversion_count", "conversions"] (List.Sublist.refl _) ?_
    (by decide))
  simp only [List.map_cons, List.map_nil, Value.sorted, sorted_ledgerJson, List.Perm.refl]

/-! ### Keys and numbers -/

theorem distinct_violationEntry (lookup : Option Lookup) (violation : Constraint) :
    (Value.record (violationEntry lookup violation)).Distinct := by
  have apart : violationKeys.Nodup := by decide
  refine .record ((keys_violationEntry lookup violation).nodup apart) fun field member => ?_
  obtain ⟨text, own⟩ | own := values_violationEntry member
  · rw [own]
    exact .text text
  · rw [own]
    exact distinct_ofNumber _ _

theorem distinct_violationList (lookup : Option Lookup) (violations : List Constraint) :
    (violationList lookup violations).Distinct := by
  refine .list fun item member => ?_
  obtain ⟨violation, _, rfl⟩ := List.mem_map.mp member
  exact distinct_violationEntry lookup violation

theorem distinct_conversionEntry (conversion : Conversion) :
    (Value.record (conversionEntry conversion)).Distinct := by
  have apart : ["from_type", "pos", "to_type"].Nodup := by decide
  refine .record apart ?_
  simp only [conversionEntry, List.forall_mem_cons]
  exact ⟨.text _, distinct_ofNumber _ _, .text _, by simp⟩

theorem mem_conversionEntries {field : String × Value} : field ∈ conversionEntries ledger ↔
    ∃ entry ∈ ledger.conversions.entries, field = (entry.1, conversionList entry.2) := by
  rw [conversionEntries, (sortFields_perm _).mem_iff, conversionTable]
  simp only [List.mem_map, eq_comm]

theorem keys_conversionTable (ledger : Ledger) :
    (conversionTable ledger).keys = ledger.conversions.keys := by
  rw [conversionTable, Table.keys, List.map_map]
  rfl

theorem keys_conversionEntries (ledger : Ledger) :
    ((conversionEntries ledger).map Prod.fst).Perm ledger.conversions.keys := by
  rw [← keys_conversionTable]
  exact (sortFields_perm _).map Prod.fst

theorem distinct_conversionEntries (distinct : ledger.conversions.keys.Nodup) :
    (Value.record (conversionEntries ledger)).Distinct := by
  refine .record ((keys_conversionEntries ledger).nodup_iff.mpr distinct) fun field member => ?_
  obtain ⟨entry, _, rfl⟩ := mem_conversionEntries.mp member
  refine .list fun item member => ?_
  obtain ⟨conversion, _, rfl⟩ := List.mem_map.mp member
  exact distinct_conversionEntry conversion

/-- Every position that is given in digits is accepted, and so are the two counts of an extraction. -/
structure Admits (accepts : Int → Bool) (extraction : Extraction) : Prop where
  checked : accepts extraction.checked = true
  count : accepts extraction.violations.length = true
  violations : ∀ violation ∈ extraction.violations, violation.spelling = .digits →
    accepts violation.position = true
  conversions : ∀ listed ∈ extraction.ledger.toList, listed.2.spelling = .digits →
    accepts listed.2.position = true

theorem accepted_of_violations (admitted : ∀ violation ∈ violations, violation.spelling = .digits →
      accepts violation.position = true) {number : Int}
    (member : number ∈ (violationList lookup violations).numbers) : accepts number = true := by
  obtain ⟨_, shown, inside⟩ := mem_itemNumbers.mp member
  obtain ⟨violation, listed, rfl⟩ := List.mem_map.mp shown
  obtain ⟨field, held, inside⟩ := mem_fieldNumbers.mp inside
  obtain ⟨text, own⟩ | own := values_violationEntry held
  · rw [own] at inside
    cases inside
  · rw [own] at inside
    obtain ⟨digits, rfl⟩ := mem_numbers_ofNumber.mp inside
    exact admitted violation listed digits

theorem accepted_of_conversions (admitted : ∀ listed ∈ ledger.toList, listed.2.spelling = .digits →
      accepts listed.2.position = true) {number : Int}
    (member : number ∈ (Value.record (conversionEntries ledger)).numbers) : accepts number = true := by
  obtain ⟨_, held, inside⟩ := mem_fieldNumbers.mp member
  obtain ⟨entry, known, rfl⟩ := mem_conversionEntries.mp held
  obtain ⟨_, shown, inside⟩ := mem_itemNumbers.mp inside
  obtain ⟨conversion, listed, rfl⟩ := List.mem_map.mp shown
  simp only [Value.numbers, conversionEntry, fieldNumbers, List.nil_append, List.append_nil,
    mem_numbers_ofNumber] at inside
  obtain ⟨digits, rfl⟩ := inside
  exact admitted (entry.1, conversion) (Ledger.mem_toList.mpr ⟨entry, known, rfl, listed⟩) digits

theorem distinct_documentEntries (distinct : extraction.ledger.conversions.keys.Nodup)
    (lookup : Option Lookup) : (Value.record (documentEntries extraction lookup)).Distinct := by
  have apart : ["constraints_checked", "conversions", "violation_count", "violations"].Nodup := by decide
  refine .record apart ?_
  simp only [documentEntries, List.forall_mem_cons]
  exact ⟨.number _, distinct_conversionEntries distinct, .number _, distinct_violationList _ _, by simp⟩

theorem Admits.numbers (admitted : Admits accepts extraction) (lookup : Option Lookup) :
    ∀ number ∈ (Value.record (documentEntries extraction lookup)).numbers, accepts number = true := by
  intro number member
  obtain ⟨field, held, inside⟩ := mem_fieldNumbers.mp member
  simp only [documentEntries, List.mem_cons, List.not_mem_nil, or_false] at held
  obtain rfl | rfl | rfl | rfl := held
  · obtain rfl := List.mem_singleton.mp inside
    exact admitted.checked
  · exact accepted_of_conversions admitted.conversions inside
  · obtain rfl := List.mem_singleton.mp inside
    exact admitted.count
  · exact accepted_of_violations admitted.violations inside

/-! ### Reading reports -/

theorem read?_report (distinct : extraction.ledger.conversions.keys.Nodup)
    (admitted : Admits accepts extraction) (lookup : Option Lookup) :
    read? accepts (print extraction .json lookup) = some (.record (documentEntries extraction lookup)) := by
  have ends : Ends "\n".toList := ends_cons (by decide : '\n'.isDigit = false)
  have bare : tokens? accepts "\n".toList = some [] := by
    refine (tokens?_blank (by decide : isBlank '\n' = true)).trans ?_
    rw [tokens?.eq_def]
  rw [print, sorted_document]
  exact read?_print_append (distinct_documentEntries distinct lookup) (admitted.numbers lookup) layout ends bare

theorem read?_violationsJson (admitted : Admits accepts extraction) (lookup : Option Lookup) :
    read? accepts (violationsJson extraction.violations lookup) =
      some (.record [("violation_count", .number extraction.violations.length),
        ("violations", violationList lookup extraction.violations)]) := by
  have apart : ["violation_count", "violations"].Nodup := by decide
  rw [violationsJson, sorted_violationsRecord]
  refine read?_print (.record ?_ ?_) (fun number member => ?_) layout
  · exact apart
  · simp only [List.forall_mem_cons]
    exact ⟨.number _, distinct_violationList _ _, by simp⟩
  · simp only [Value.numbers, fieldNumbers, List.append_nil, List.mem_append, List.mem_singleton] at member
    obtain rfl | inside := member
    · exact admitted.count
    · exact accepted_of_violations admitted.violations inside

theorem read?_ledgerJson (distinct : ledger.conversions.keys.Nodup) :
    read? (fun _ => true) (ledgerJson ledger) = some (.record [("conversion_count", .number ledger.total),
      ("conversions", .record (conversionEntries ledger))]) := by
  have apart : ["conversion_count", "conversions"].Nodup := by decide
  rw [ledgerJson, sorted_ledgerRecord]
  refine read?_print (.record ?_ ?_) (fun _ _ => rfl) layout
  · exact apart
  · simp only [List.forall_mem_cons]
    exact ⟨.number _, distinct_conversionEntries distinct, by simp⟩

/-- The report as it is put together in steps: the text of the violations is read back, the conversions and
the number of constraints join what was read, and all of it is printed. -/
def assembled? (accepts : Int → Bool) (extraction : Extraction) (lookup : Option Lookup) : Option String :=
  match read? accepts (violationsJson extraction.violations lookup) with
  | some (.record fields) =>
    let joined := (Table.put ⟨fields⟩ "conversions" extraction.ledger.json).put "constraints_checked"
      (.number extraction.checked)
    some ((Value.record joined.entries).sorted.print layout ++ "\n")
  | _ => none

/-- Nothing is lost on the way through the text of the violations. -/
theorem assembled?_eq (admitted : Admits accepts extraction) (lookup : Option Lookup) :
    assembled? accepts extraction lookup = some (print extraction .json lookup) := by
  have again := sorted_violationList lookup extraction.violations
  rw [assembled?, read?_violationsJson admitted, print, sorted_document, ← sorted_of_violations again]
  rfl

/-! ### Ledgers -/

/-- A position that is given as a truth value is one or zero. -/
def Spelled (ledger : Ledger) : Prop :=
  ∀ listed ∈ ledger.toList, listed.2.spelling = .truth → listed.2.position = 0 ∨ listed.2.position = 1

theorem ofNumber_inj {first second : Int} {spelling other : Text.Spelling}
    (truth : spelling = .truth → first = 0 ∨ first = 1) (otherTruth : other = .truth → second = 0 ∨ second = 1)
    (same : Value.ofNumber first spelling = .ofNumber second other) : first = second ∧ spelling = other := by
  cases spelling with
  | digits =>
    cases other with
    | digits => exact ⟨Value.number.inj same, rfl⟩
    | truth => cases same
  | truth =>
    cases other with
    | digits => cases same
    | truth =>
      have alike := Value.flag.inj same
      obtain rfl | rfl := truth rfl
      all_goals
        obtain rfl | rfl := otherTruth rfl
        all_goals first | exact ⟨rfl, rfl⟩ | exact absurd alike (by decide)

theorem eq_of_map_eq {Item Image : Type} {carry : Item → Image} {first second : List Item}
    (apart : ∀ item ∈ first, ∀ other ∈ second, carry item = carry other → item = other)
    (same : first.map carry = second.map carry) : first = second := by
  induction first generalizing second with
  | nil => exact (List.map_eq_nil_iff.mp same.symm).symm
  | cons item rest ih =>
    cases second with
    | nil => cases same
    | cons other later =>
      obtain ⟨own, behind⟩ := List.cons.inj same
      obtain rfl := apart item List.mem_cons_self other List.mem_cons_self own
      rw [ih (fun item member other listed =>
        apart item (List.mem_cons_of_mem _ member) other (List.mem_cons_of_mem _ listed)) behind]

theorem find?_conversionTable (ledger : Ledger) (identifier : String) :
    (conversionTable ledger).find? identifier =
      (ledger.conversions.find? identifier).map conversionList :=
  Table.find?_map conversionList identifier

/-- Records tell apart what stands under an identifier. -/
theorem find?_eq_of_entries {first second : Ledger} (spelled : Spelled first) (otherSpelled : Spelled second)
    {identifier : String} (same : (first.conversions.find? identifier).map conversionList =
      (second.conversions.find? identifier).map conversionList) :
    first.conversions.find? identifier = second.conversions.find? identifier := by
  cases found : first.conversions.find? identifier with
  | none =>
    rw [found] at same
    exact (Option.map_eq_none_iff.mp same.symm).symm
  | some conversions =>
    rw [found] at same
    obtain ⟨others, known, alike⟩ := Option.map_eq_some_iff.mp same.symm
    rw [known, eq_of_map_eq ?_ (Value.list.inj alike).symm]
    intro conversion member other listed records
    have fields := Value.record.inj records
    simp only [conversionEntry, List.cons.injEq, Prod.mk.injEq, Value.text.injEq, true_and, and_true] at fields
    obtain ⟨source, position, target⟩ := fields
    obtain ⟨position, spelling⟩ := ofNumber_inj (spelled _ (Ledger.mem_toList_of_find? found member))
      (otherSpelled _ (Ledger.mem_toList_of_find? known listed)) position
    obtain ⟨_, _, _, _⟩ := conversion
    obtain ⟨_, _, _, _⟩ := other
    simp only [Conversion.mk.injEq]
    exact ⟨position, source, target, spelling⟩

/-- Two ledgers make the same entries exactly if under each identifier they hold the same conversions. -/
theorem conversionEntries_eq_iff {first second : Ledger} (distinct : first.conversions.keys.Nodup)
    (otherDistinct : second.conversions.keys.Nodup) (spelled : Spelled first) (otherSpelled : Spelled second) :
    conversionEntries first = conversionEntries second ↔
      ∀ identifier, first.conversions.find? identifier = second.conversions.find? identifier := by
  have own : (conversionTable first).keys.Nodup := (keys_conversionTable first).symm ▸ distinct
  have others : (conversionTable second).keys.Nodup := (keys_conversionTable second).symm ▸ otherDistinct
  rw [conversionEntries, conversionEntries, sortFields_eq_iff others]
  refine (Table.perm_entries_iff own others).trans (forall_congr' fun identifier => ?_)
  rw [find?_conversionTable, find?_conversionTable]
  exact ⟨find?_eq_of_entries spelled otherSpelled, fun same => by rw [same]⟩

theorem total_eq {first second : Ledger} (distinct : first.conversions.keys.Nodup)
    (otherDistinct : second.conversions.keys.Nodup) (same : ∀ identifier,
      first.conversions.find? identifier = second.conversions.find? identifier) : first.total = second.total :=
  (((Table.perm_entries_iff distinct otherDistinct).mpr same).map Prod.snd).flatten.length_eq

/-- Ledgers have the same text exactly if under each identifier they hold the same conversions, in whatever
order the identifiers came. -/
theorem ledgerJson_eq_iff {first second : Ledger} (distinct : first.conversions.keys.Nodup)
    (otherDistinct : second.conversions.keys.Nodup) (spelled : Spelled first) (otherSpelled : Spelled second) :
    ledgerJson first = ledgerJson second ↔
      ∀ identifier, first.conversions.find? identifier = second.conversions.find? identifier := by
  rw [← conversionEntries_eq_iff distinct otherDistinct spelled otherSpelled]
  constructor
  · intro same
    -- Both records are what the one text is read as.
    have read := read?_ledgerJson distinct
    rw [same, read?_ledgerJson otherDistinct] at read
    have fields := Value.record.inj (Option.some.inj read)
    simp only [List.cons.injEq, Prod.mk.injEq, Value.record.injEq, true_and, and_true] at fields
    exact fields.2.symm
  · intro same
    have alike := (conversionEntries_eq_iff distinct otherDistinct spelled otherSpelled).mp same
    rw [ledgerJson, ledgerJson, sorted_ledgerRecord, sorted_ledgerRecord, same,
      total_eq distinct otherDistinct alike]

theorem find?_conversionEntries (distinct : ledger.conversions.keys.Nodup) (identifier : String) :
    (⟨conversionEntries ledger⟩ : Table String Value).find? identifier =
      (ledger.conversions.find? identifier).map conversionList := by
  have keys : (conversionTable ledger).keys.Nodup := (keys_conversionTable ledger).symm ▸ distinct
  have sorted : (⟨conversionEntries ledger⟩ : Table String Value).keys.Nodup :=
    (keys_conversionEntries ledger).nodup_iff.mpr distinct
  rw [← find?_conversionTable]
  exact (Table.perm_entries_iff sorted keys).mp (sortFields_perm _) identifier

/-- A report as JSON says all that there is to say: it is read as the record of its two counts, of the
violations in their order, and of the conversions of each identifier in theirs. Reading back the text of the
violations on the way to it loses nothing. And ledgers have the same text exactly if under each identifier
they hold the same conversions. -/
theorem print_lossless (distinct : extraction.ledger.conversions.keys.Nodup)
    (admitted : Admits accepts extraction) (lookup : Option Lookup) :
    (∃ conversions, read? accepts (print extraction .json lookup) = some (.record
        [("constraints_checked", .number extraction.checked), ("conversions", .record conversions),
          ("violation_count", .number extraction.violations.length),
          ("violations", violationList lookup extraction.violations)]) ∧
        (conversions.map Prod.fst).Nodup ∧
        ∀ identifier, (⟨conversions⟩ : Table String Value).find? identifier =
          (extraction.ledger.conversions.find? identifier).map conversionList) ∧
      read? accepts (violationsJson extraction.violations lookup) = some (.record
        [("violation_count", .number extraction.violations.length),
          ("violations", violationList lookup extraction.violations)]) ∧
      assembled? accepts extraction lookup = some (print extraction .json lookup) ∧
      ∀ other : Extraction, other.ledger.conversions.keys.Nodup → Spelled extraction.ledger →
        Spelled other.ledger → (ledgerJson extraction.ledger = ledgerJson other.ledger ↔
          ∀ identifier, extraction.ledger.conversions.find? identifier =
            other.ledger.conversions.find? identifier) :=
  ⟨⟨conversionEntries extraction.ledger, read?_report distinct admitted lookup,
      (keys_conversionEntries extraction.ledger).nodup_iff.mpr distinct, find?_conversionEntries distinct⟩,
    read?_violationsJson admitted lookup, assembled?_eq admitted lookup,
    fun _ otherDistinct spelled otherSpelled =>
      ledgerJson_eq_iff distinct otherDistinct spelled otherSpelled⟩

/-- An extraction with conversions under two identifiers, in either order. -/
def converted (first second : String) : Extraction where
  violations := [⟨"\x22\\", "𝄞", 3, "\x7f\n", .digits⟩]
  ledger := ⟨⟨[(first, [⟨3, "A", "B", .digits⟩]), (second, [⟨3, "A", "B", .digits⟩])]⟩, Table.empty⟩
  diagnostics := []
  considered := 1
  checked := 2

theorem print_lossless_converted :
    (∃ value, read? Text.hasNumeral (print (converted "é" "") .json none) = some value) ∧
      assembled? Text.hasNumeral (converted "é" "") none = some (print (converted "é" "") .json none) ∧
      ledgerJson (converted "é" "").ledger = ledgerJson (converted "" "é").ledger := by
  have distinct : (converted "é" "").ledger.conversions.keys.Nodup := by decide
  have otherDistinct : (converted "" "é").ledger.conversions.keys.Nodup := by decide
  have digits : ∀ first second, Spelled (converted first second).ledger := by
    intro first second
    simp [Spelled, converted, Ledger.toList]
  have admitted : Admits Text.hasNumeral (converted "é" "") :=
    ⟨by decide, by decide, by decide, by decide⟩
  obtain ⟨⟨_, read, _⟩, _, assembled, alike⟩ := print_lossless distinct admitted none
  refine ⟨⟨_, read⟩, assembled, (alike (converted "" "é") otherDistinct (digits _ _) (digits _ _)).mpr ?_⟩
  exact (Table.perm_entries_iff distinct otherDistinct).mp (List.Perm.swap _ _ _)

end SchemeTyping.Report
