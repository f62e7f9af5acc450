import SchemeTyping.Proofs.Conversion.Ledger
import SchemeTyping.Proofs.Extraction.Survey
import SchemeTyping.Proofs.Table

/-! What findings leave behind one after the other. Each conversion is appended under its identifier; a
finding is reported if it is the first to require a conversion under its key, and then its key is seen
from there on and its lines are written out. -/
namespace SchemeTyping

theorem linesText_append (first second : List String) :
    linesText (first ++ second) = linesText first ++ linesText second := by
  rw [linesText, List.map_append, String.join_append]
  rfl

namespace Finding

/-- A finding is reported over a ledger if it requires a conversion and its key was not seen yet. -/
def IsReported (ledger : Ledger) (finding : Finding) : Prop :=
  finding.requirement.isSome = true ∧ finding.constraint.key ∉ ledger.seen.keys

instance (ledger : Ledger) (finding : Finding) : Decidable (finding.IsReported ledger) :=
  inferInstanceAs (Decidable (_ ∧ _))

/-- The findings that are reported, each over the ledger that those before it leave. -/
def reported : Ledger → List Finding → List Finding
  | _, [] => []
  | ledger, finding :: rest =>
    (if finding.IsReported ledger then [finding] else []) ++ reported (finding.enter ledger) rest

/-- The lines by which a finding is reported. -/
def lines (finding : Finding) : List String :=
  match finding.requirement with
  | none => []
  | some requirement =>
    Progress.report finding.constraint finding.leftName requirement.conversion

/-- What a reported finding leaves under its key. -/
def seenEntry (finding : Finding) : ConversionKey × Sighting :=
  (finding.constraint.key, finding.constraint.sighting)

/-- The conversion that a finding adds under an identifier, if it adds one there. -/
def addition (identifier : String) (finding : Finding) : List Conversion :=
  match finding.requirement with
  | none => []
  | some requirement => if requirement.attributed = identifier then [requirement.conversion] else []

variable {ledger : Ledger} {finding : Finding}

theorem not_isReported (silent : finding.requirement = none) : ¬ finding.IsReported ledger := by
  intro ⟨required, _⟩
  rw [silent] at required
  cases required

theorem isReported_iff {requirement : Requirement} (required : finding.requirement = some requirement) :
    finding.IsReported ledger ↔ finding.constraint.key ∉ ledger.seen.keys := by
  simp [IsReported, required]

theorem conversionsFor_enter (ledger : Ledger) (finding : Finding) (identifier : String) :
    (finding.enter ledger).conversionsFor identifier =
      ledger.conversionsFor identifier ++ finding.addition identifier := by
  unfold enter addition
  cases finding.requirement with
  | none => exact (List.append_nil _).symm
  | some requirement => exact Ledger.conversionsFor_record identifier

/-- Under each identifier the conversions are appended in order. -/
theorem conversionsFor_foldl_enter (ledger : Ledger) (findings : List Finding) (identifier : String) :
    (findings.foldl enter ledger).conversionsFor identifier =
      ledger.conversionsFor identifier ++ findings.flatMap (addition identifier) := by
  induction findings generalizing ledger with
  | nil => simp
  | cons finding rest ih =>
    rw [List.foldl_cons, ih, conversionsFor_enter, List.append_assoc, List.flatMap_cons]

/-- A finding that is reported adds its key at the end; any other leaves what was seen alone. -/
theorem seen_enter (ledger : Ledger) (finding : Finding) :
    (finding.enter ledger).seen.entries =
      ledger.seen.entries ++ if finding.IsReported ledger then [finding.seenEntry] else [] := by
  unfold enter
  cases required : finding.requirement with
  | none => rw [if_neg (not_isReported required), List.append_nil]
  | some requirement =>
    by_cases known : finding.constraint.key ∈ ledger.seen.keys
    · have stale := Ledger.isFresh_eq_false known
      rw [if_neg fun reports => reports.2 known, List.append_nil]
      simp [Ledger.record, stale]
    · have fresh := Ledger.isFresh_iff.mpr known
      rw [if_pos ((isReported_iff required).mpr known)]
      simp [Ledger.record, fresh, Table.entries_put_of_fresh known, seenEntry]

theorem seen_foldl_enter (ledger : Ledger) (findings : List Finding) :
    (findings.foldl enter ledger).seen.entries =
      ledger.seen.entries ++ (reported ledger findings).map seenEntry := by
  induction findings generalizing ledger with
  | nil => simp [reported]
  | cons finding rest ih =>
    rw [List.foldl_cons, ih, seen_enter, reported, List.map_append, ← List.append_assoc]
    split <;> rfl

theorem keys_enter (ledger : Ledger) (finding : Finding) : (finding.enter ledger).seen.keys =
    ledger.seen.keys ++ if finding.IsReported ledger then [finding.constraint.key] else [] := by
  rw [Table.keys, seen_enter, List.map_append]
  split <;> rfl

/-- After a finding that requires a conversion its key is seen, reported or not. -/
theorem mem_keys_enter {key : ConversionKey} : key ∈ (finding.enter ledger).seen.keys ↔
    key ∈ ledger.seen.keys ∨ finding.requirement.isSome = true ∧ finding.constraint.key = key := by
  rw [keys_enter, List.mem_append]
  by_cases reports : finding.IsReported ledger
  · rw [if_pos reports, List.mem_singleton]
    exact or_congr_right ⟨fun same => ⟨reports.1, same.symm⟩, fun own => own.2.symm⟩
  · rw [if_neg reports]
    constructor
    · exact fun either => .inl (either.resolve_right List.not_mem_nil)
    · rintro (old | ⟨required, rfl⟩)
      · exact .inl old
      · exact .inl (Decidable.byContradiction fun unseen => reports ⟨required, unseen⟩)

theorem mem_keys_foldl_enter {findings : List Finding} {key : ConversionKey} :
    key ∈ (findings.foldl enter ledger).seen.keys ↔ key ∈ ledger.seen.keys ∨
      ∃ finding ∈ findings, finding.requirement.isSome = true ∧ finding.constraint.key = key := by
  induction findings generalizing ledger with
  | nil => simp
  | cons finding rest ih =>
    rw [List.foldl_cons, ih, mem_keys_enter, or_assoc]
    simp only [List.mem_cons, exists_eq_or_imp]

theorem nodup_keys_foldl_enter {findings : List Finding} (distinct : ledger.seen.keys.Nodup) :
    (findings.foldl enter ledger).seen.keys.Nodup := by
  induction findings generalizing ledger with
  | nil => exact distinct
  | cons finding rest ih =>
    refine ih ?_
    rw [keys_enter]
    split
    · next reports =>
      refine List.nodup_append.mpr ⟨distinct, by simp, ?_⟩
      rintro key known other single rfl
      exact reports.2 (List.mem_singleton.mp single ▸ known)
    · rwa [List.append_nil]

theorem total_foldl_enter (ledger : Ledger) (findings : List Finding) :
    (findings.foldl enter ledger).total =
      ledger.total + findings.countP fun finding => finding.requirement.isSome := by
  induction findings generalizing ledger with
  | nil => rfl
  | cons finding rest ih =>
    rw [List.foldl_cons, ih, List.countP_cons]
    unfold enter
    cases finding.requirement with
    | none => rfl
    | some requirement =>
      rw [Ledger.total_record]
      simp only [Option.isSome_some, if_true]
      omega

theorem reported_append (ledger : Ledger) (first second : List Finding) :
    reported ledger (first ++ second) =
      reported ledger first ++ reported (first.foldl enter ledger) second := by
  induction first generalizing ledger with
  | nil => rfl
  | cons finding rest ih =>
    simp only [List.cons_append, reported, ih, List.append_assoc, List.foldl_cons]

/-- What is reported under what keys does not change with what is said besides. -/
theorem reported_map (blur : Finding → Finding)
    (constraint : ∀ finding, (blur finding).constraint = finding.constraint)
    (requires : ∀ finding, (blur finding).requirement.isSome = finding.requirement.isSome)
    {first second : Ledger} (same : first.seen.keys = second.seen.keys) (findings : List Finding) :
    reported first (findings.map blur) = (reported second findings).map blur := by
  have blurred (finding : Finding) {first second : Ledger} (same : first.seen.keys = second.seen.keys) :
      (blur finding).IsReported first ↔ finding.IsReported second := by
    unfold IsReported
    rw [constraint, requires, same]
  induction findings generalizing first second with
  | nil => rfl
  | cons finding rest ih =>
    have still : ((blur finding).enter first).seen.keys = (finding.enter second).seen.keys := by
      rw [keys_enter, keys_enter, same, constraint]
      simp only [blurred finding same]
    rw [List.map_cons, reported, reported, ih still, List.map_append]
    simp only [blurred finding same]
    split <;> rfl

/-- Nothing is reported where every key was seen before. -/
theorem reported_of_seen {findings : List Finding} (seen : ∀ finding ∈ findings,
      finding.requirement.isSome = true → finding.constraint.key ∈ ledger.seen.keys) :
    reported ledger findings = [] := by
  induction findings generalizing ledger with
  | nil => rfl
  | cons finding rest ih =>
    have silent : ¬ finding.IsReported ledger := fun reports =>
      reports.2 (seen finding List.mem_cons_self reports.1)
    rw [reported, if_neg silent, List.nil_append]
    exact ih fun other member required =>
      mem_keys_enter.mpr (.inl (seen other (List.mem_cons_of_mem _ member) required))

theorem length_lines {finding : Finding} (required : finding.requirement.isSome = true) :
    finding.lines.length = 2 := by
  obtain ⟨requirement, held⟩ := Option.isSome_iff_exists.mp required
  rw [lines, held]
  rfl

/-- There are two lines for each key that comes to be seen. -/
theorem length_lines_reported (ledger : Ledger) (findings : List Finding) :
    ((reported ledger findings).flatMap lines).length + 2 * ledger.size =
      2 * (findings.foldl enter ledger).size := by
  induction findings generalizing ledger with
  | nil => exact Nat.zero_add _
  | cons finding rest ih =>
    have later := ih (finding.enter ledger)
    have grown := congrArg List.length (keys_enter ledger finding)
    rw [Table.length_keys, List.length_append, Table.length_keys] at grown
    rw [reported, List.flatMap_append, List.length_append, List.foldl_cons, ← later]
    simp only [Ledger.size]
    rw [grown]
    by_cases reports : finding.IsReported ledger
    · simp only [if_pos reports, List.flatMap_singleton, length_lines reports.1, List.length_singleton]
      omega
    · simp only [if_neg reports, List.flatMap_nil, List.length_nil]
      omega

end Finding

namespace Progress

theorem foldl_emit (lines : List String) (progress : Progress) :
    (lines.foldl emit progress).diagnostics = progress.diagnostics ++ lines ∧
      (lines.foldl emit progress).written = progress.written ++ linesText lines := by
  induction lines generalizing progress with
  | nil => exact ⟨(List.append_nil _).symm, (String.append_empty).symm⟩
  | cons line rest ih =>
    obtain ⟨diagnostics, written⟩ := ih (progress.emit line)
    rw [List.foldl_cons, diagnostics, written]
    constructor
    · simp [emit]
    · simp [emit, linesText, String.append_assoc]

/-- A finding that is reported emits its lines, and any other none. -/
theorem diagnostics_note (progress : Progress) (finding : Finding) :
    (progress.note finding).diagnostics = progress.diagnostics ++
        (if finding.IsReported progress.ledger then finding.lines else []) ∧
      (progress.note finding).written = progress.written ++
        linesText (if finding.IsReported progress.ledger then finding.lines else []) := by
  have judged : ∀ verdict, ((progress.judge finding.constraint verdict).blame finding.constraint
      verdict).diagnostics = progress.diagnostics ∧ ((progress.judge finding.constraint verdict).blame
      finding.constraint verdict).written = progress.written ∧
      ((progress.judge finding.constraint verdict).blame finding.constraint verdict).ledger =
        progress.ledger := by
    intro verdict
    cases verdict <;> exact ⟨rfl, rfl, rfl⟩
  obtain ⟨diagnostics, written, ledger⟩ := judged finding.verdict
  rw [note, ← diagnostics, ← written, ← ledger]
  generalize (progress.judge finding.constraint finding.verdict).blame finding.constraint
    finding.verdict = start
  cases required : finding.requirement with
  | none =>
    rw [if_neg (Finding.not_isReported required)]
    simp [convert?, linesText]
  | some requirement =>
    by_cases known : finding.constraint.key ∈ start.ledger.seen.keys
    · have stale := Ledger.isFresh_eq_false known
      rw [if_neg fun reports => reports.2 known]
      simp [convert?, convert, stale, tell, linesText]
    · have fresh := Ledger.isFresh_iff.mpr known
      rw [if_pos ((Finding.isReported_iff required).mpr known)]
      simp only [convert?, convert, fresh, if_true, foldl_emit, Finding.lines, required, and_self]

/-- The lines of the findings that are reported are emitted in order, and written out as they come. -/
theorem diagnostics_foldl_note (findings : List Finding) (progress : Progress) :
    (findings.foldl note progress).diagnostics =
        progress.diagnostics ++ (Finding.reported progress.ledger findings).flatMap Finding.lines ∧
      (findings.foldl note progress).written = progress.written ++
        linesText ((Finding.reported progress.ledger findings).flatMap Finding.lines) := by
  induction findings generalizing progress with
  | nil => simp [Finding.reported, linesText]
  | cons finding rest ih =>
    obtain ⟨diagnostics, written⟩ := ih (progress.note finding)
    obtain ⟨first, firstWritten⟩ := progress.diagnostics_note finding
    have own : (if finding.IsReported progress.ledger then [finding] else []).flatMap Finding.lines =
        if finding.IsReported progress.ledger then finding.lines else [] := by
      split
      · exact List.flatMap_singleton _ _
      · rfl
    rw [List.foldl_cons, diagnostics, written, first, firstWritten, ledger_note, Finding.reported,
      List.flatMap_append, own, linesText_append, List.append_assoc, String.append_assoc]
    exact ⟨rfl, rfl⟩

end Progress

namespace Setting
variable {setting : Setting} {after : Typing} {constraints : List Constraint} {findings : List Finding}
  {failure : Option Failure}

/-- What a check emits, also one that fails: the lines of the findings that are reported. -/
theorem diagnostics_of_surveyed (surveyed : setting.survey constraints = (findings, failure))
    (progress : Progress) :
    (setting.check progress constraints).1.diagnostics = progress.diagnostics ++
        (Finding.reported progress.ledger findings).flatMap Finding.lines ∧
      (setting.check progress constraints).1.written = progress.written ++
        linesText ((Finding.reported progress.ledger findings).flatMap Finding.lines) := by
  have emitted := Progress.diagnostics_foldl_note findings
    (progress.tell .info "Verifying the concrete typing...")
  unfold check
  rw [surveyed]
  cases failure with
  | none => exact emitted
  | some failure => exact emitted

/-- The extraction that findings make up over a ledger. -/
def extractionOf (setting : Setting) (constraints : List Constraint) (ledger : Ledger)
    (findings : List Finding) : Extraction where
  violations := (findings.filter fun finding => finding.verdict.isViolation).map Finding.constraint
  ledger := findings.foldl Finding.enter ledger
  diagnostics := (Finding.reported ledger findings).flatMap Finding.lines
  considered := setting.store.size
  checked := constraints.length

/-- What a pass leaves and yields once assignment has completed: all of it is in the findings. -/
theorem extract_of_surveyed (setting : Setting) (ledger : Ledger)
    (assigned : setting.hierarchy.assignAll setting.typing setting.store.references = (after, none))
    (surveyed : { setting with typing := after }.survey constraints = (findings, failure)) :
    (setting.extract constraints ledger).typing = after ∧
      (setting.extract constraints ledger).ledger = findings.foldl Finding.enter ledger ∧
      (setting.extract constraints ledger).written =
        linesText ((Finding.reported ledger findings).flatMap Finding.lines) ∧
      (setting.extract constraints ledger).result =
        failure.elim (.ok (setting.extractionOf constraints ledger findings)) .error := by
  let started : Progress := ({ ledger } : Progress).tell .info
    ("Picking up the maximal qualifier for " ++ toString setting.store.size ++ " variables...")
  obtain ⟨failed, entered, violations⟩ := check_of_surveyed surveyed started
  obtain ⟨diagnostics, written⟩ := diagnostics_of_surveyed surveyed started
  unfold extract
  rw [assigned]
  cases checked : { setting with typing := after }.check started constraints with
  | mk progress ending =>
    rw [checked] at failed entered violations diagnostics written
    obtain rfl : ending = failure := failed
    simp only [started] at checked
    have text : progress.written =
        linesText ((Finding.reported ledger findings).flatMap Finding.lines) :=
      written.trans (String.empty_append ..)
    cases ending with
    | some failure =>
      simp only [checked]
      exact ⟨trivial, entered, text, rfl⟩
    | none =>
      simp only [checked, extractionOf]
      exact ⟨trivial, entered, text, by rw [violations, entered, diagnostics]; rfl⟩

/-- A pass completes only if assignment and the survey behind it do. -/
theorem extract_eq_ok {ledger : Ledger} {extraction : Extraction}
    (completed : (setting.extract constraints ledger).result = .ok extraction) :
    ∃ after findings,
      setting.hierarchy.assignAll setting.typing setting.store.references = (after, none) ∧
      { setting with typing := after }.survey constraints = (findings, none) ∧
      extraction = setting.extractionOf constraints ledger findings := by
  cases assigned : setting.hierarchy.assignAll setting.typing setting.store.references with
  | mk after ending =>
    cases ending with
    | some failure =>
      simp only [extract, assigned] at completed
      cases completed
    | none =>
      cases surveyed : { setting with typing := after }.survey constraints with
      | mk findings failure =>
        obtain ⟨_, _, _, result⟩ := extract_of_surveyed setting ledger assigned surveyed
        rw [completed] at result
        cases failure with
        | some failure => cases result
        | none => exact ⟨after, findings, rfl, surveyed, Except.ok.inj result⟩

/-- A pass that completes has written out its diagnostic lines and nothing else. -/
theorem written_of_completed {ledger : Ledger} {extraction : Extraction}
    (completed : (setting.extract constraints ledger).result = .ok extraction) :
    (setting.extract constraints ledger).written = linesText extraction.diagnostics := by
  obtain ⟨after, findings, assigned, surveyed, rfl⟩ := extract_eq_ok completed
  exact (extract_of_surveyed setting ledger assigned surveyed).2.2.1

end Setting
end SchemeTyping
