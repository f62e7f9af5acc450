import SchemeTyping.Command.Run
import SchemeTyping.Proofs.AnalysisUnit.Reading
import SchemeTyping.Proofs.AnalysisUnit.Refusals
import SchemeTyping.Proofs.AnalysisUnit.Repetition
import SchemeTyping.Proofs.AnalysisUnit.Verdict
import SchemeTyping.Proofs.Report.Writing

/-! How a run over a unit file ends: with an exit code that says whether there is a unit and whether it
has violations, unless the file has a position that no numeral may have. -/
namespace SchemeTyping.Command
open AnalysisUnit
variable {around : Surroundings} {tree : FileTree} {effects : Effects} {task : Task} {word : String}
  {path : Path} {content : List UInt8}

/-- Tasks on the unit that a word names which deliver to standard output and nowhere else. -/
inductive Task.Reads (word : String) : Task → Prop where
  | check : Reads word (.check word)
  | hierarchy (named : word ≠ "") : Reads word (.hierarchy (some word))
  | extract {delivery : Delivery} (standard : delivery.output = .standard)
      (formed : delivery.format ≠ none) (bare : delivery.ledger.getD "" = "") :
      Reads word (.extract word delivery)

theorem ofText_of_plain {word : String} (known : List Switch) (plain : word.toList.head? ≠ some '-') :
    Role.ofText known word = .ok .plain := by
  unfold Role.ofText
  split
  · next chars => simp [chars] at plain
  · rfl

theorem classify_of_plain {words : List String} (known : List Switch)
    (plain : ∀ word ∈ words, word.toList.head? ≠ some '-') :
    Word.classify known words = .ok (words.map fun word => ⟨word, .plain⟩) := by
  induction words with
  | nil => rfl
  | cons word rest ih =>
    have own := plain word List.mem_cons_self
    have other : word ≠ Word.separator := by
      rintro rfl
      exact own (by decide +kernel)
    rw [Word.classify, if_neg other, ofText_of_plain known own,
      ih fun later member => plain later (List.mem_cons_of_mem _ member)]
    rfl

/-- A command with a plain word behind it asks for the unit that the word names. -/
theorem asked_of_plain (verb : Verb) {word : String} (plain : word.toList.head? ≠ some '-') :
    ∃ task, Request.ofWords [verb.label, word] = .ok ⟨0, some task⟩ ∧
      (word ≠ "" → task.Reads word) := by
  have label : verb.label.toList.head? ≠ some '-' := by
    cases verb <;> decide +kernel
  have known : Verb.ofLabel? verb.label = some verb := by
    cases verb <;> decide +kernel
  have words : Word.classify (Switch.known none) [verb.label, word] =
      .ok [⟨verb.label, .plain⟩, ⟨word, .plain⟩] :=
    classify_of_plain _ (by simp [label, plain])
  have operand : Word.classify (Switch.known (some verb)) [word] = .ok [⟨word, .plain⟩] :=
    classify_of_plain _ (by simp [plain])
  have read : ∃ task, verb.read [word] = .ok (task, []) ∧ (word ≠ "" → task.Reads word) := by
    simp only [Verb.read, operand]
    cases verb with
    | extract => exact ⟨.extract word {}, rfl, fun _ => .extract rfl (by decide) rfl⟩
    | check => exact ⟨.check word, rfl, fun _ => .check⟩
    | hierarchy => exact ⟨.hierarchy (some word), rfl, fun named => .hierarchy named⟩
  obtain ⟨task, read, reads⟩ := read
  refine ⟨task, ?_, reads⟩
  simp [Request.ofWords, words, Item.ofWords, Reading.read, known, read, Request.settle]

/-- A word of the command line names a file that can be read. -/
structure Names (around : Surroundings) (tree : FileTree) (word : String) (path : Path)
    (content : List UInt8) : Prop where
  resolved : around.resolve word = .ok path
  clean : '\x00' ∉ path.toText.toList
  found : tree.find around.directory path = .ok (.file content)

/-- Octets in which items are laid out, one of them with a position that has too many digits. -/
def Unwritable (content : List UInt8) : Prop :=
  ∃ text items, Text.Utf8.decode content = .ok text ∧
    LaidOut items (Text.unifyNewlines text) ∧ Overlong items

/-- How a run ends over a file that yields no unit. -/
def endingOn (fault : FileFault) : Ending :=
  if fault = .malformed .numeralTooLong then .crash .numeralTooLong else .exit failed

theorem loadFile_of_names (names : Names around tree word path content) :
    loadFile tree around.directory path = loadOctets content path.toText := by
  refine loadFile_of_read names.clean ?_
  simp only [FileTree.read, names.found]

theorem loadOctets_numeralTooLong_iff {source : String} :
    (loadOctets content source).result = .error (.malformed .numeralTooLong) ↔
      Unwritable content := by
  unfold loadOctets Unwritable
  cases Text.Utf8.decode content with
  | error fault => simp
  | ok text =>
    constructor
    · intro refused
      obtain ⟨fault, unread, same⟩ := Outcome.mapError_eq_error.mp refused
      obtain rfl := FileFault.malformed.inj same
      obtain ⟨items, laid, long⟩ := load_numeralTooLong_iff.mp unread
      exact ⟨text, items, rfl, laid, long⟩
    · rintro ⟨decoded, items, same, laid, long⟩
      obtain rfl := Except.ok.inj same
      exact Outcome.mapError_eq_error.mpr
        ⟨.numeralTooLong, load_numeralTooLong_iff.mpr ⟨items, laid, long⟩, rfl⟩

/-- Every other fault in the octets of a file has a diagnostic. -/
theorem diagnostic_of_loadOctets {source : String} {fault : FileFault}
    (refused : (loadOctets content source).result = .error fault) :
    fault.diagnostic? source = none ↔ fault = .malformed .numeralTooLong := by
  unfold loadOctets at refused
  split at refused
  · obtain rfl := Except.error.inj refused
    simp [FileFault.diagnostic?]
  · obtain ⟨inner, _, rfl⟩ := Outcome.mapError_eq_error.mp refused
    cases inner <;> simp [FileFault.diagnostic?, LoadFault.diagnostic?]

/-- Loading the unit that a word names yields what its octets do. -/
theorem load_of_names (names : Names around effects.tree word path content) :
    (around.load effects word).2 =
      (loadOctets content path.toText).result.mapError endingOn := by
  have located : around.locate effects word = (effects, .ok path) := by
    simp only [Surroundings.locate, names.resolved, names.found]
  rw [Surroundings.load, located]
  simp only [Step.andThen, Surroundings.loadFrom, loadFile_of_names names]
  cases read : (loadOctets content path.toText).result with
  | ok unit => rfl
  | error fault =>
    -- A fault without a diagnostic is not caught where units are loaded.
    have untold := diagnostic_of_loadOctets read
    cases diagnosed : fault.diagnostic? path.toText with
    | none =>
      obtain rfl := untold.mp diagnosed
      rfl
    | some diagnostic =>
      have other : fault ≠ .malformed .numeralTooLong := by
        intro same
        rw [untold.mpr same] at diagnosed
        cases diagnosed
      have ending : endingOn fault = .exit failed := if_neg other
      simp only [diagnosed]
      exact congrArg Except.error ending.symm

namespace Step
variable {Value Next : Type} {step : Step Value} {next : Effects → Value → Step Next}

theorem andThen_of_error {ending : Ending} (ended : step.2 = .error ending) :
    (step.andThen next).2 = .error ending := by
  obtain ⟨effects, _⟩ := step
  obtain rfl := ended
  rfl

theorem andThen_of_ok {value : Value} (went : step.2 = .ok value) :
    step.andThen next = next step.1 value := by
  obtain ⟨effects, _⟩ := step
  obtain rfl := went
  rfl

theorem ending_of_error {step : Step Nat} {ending : Ending} (ended : step.2 = .error ending) :
    step.ending = ending := by
  simp only [Step.ending, ended]

/-- A step has at most added to the journal. -/
structure Silent (before : Effects) (step : Step Value) : Prop where
  tree : step.1.tree = before.tree
  output : step.1.output = before.output

theorem Silent.andThen (first : step.Silent effects)
    (second : ∀ between value, (next between value).Silent between) :
    (step.andThen next).Silent effects := by
  obtain ⟨between, _ | value⟩ := step
  · exact ⟨first.tree, first.output⟩
  · have later := second between value
    exact ⟨later.tree.trans first.tree, later.output.trans first.output⟩

end Step

namespace Surroundings

theorem silent_locate : (around.locate effects word).Silent effects := by
  unfold locate
  split
  · exact ⟨rfl, rfl⟩
  · split <;> exact ⟨rfl, rfl⟩

theorem silent_loadFrom : (around.loadFrom effects path).Silent effects := by
  simp only [loadFrom]
  split
  · exact ⟨rfl, rfl⟩
  · split <;> exact ⟨rfl, rfl⟩

/-- Loading a unit writes nothing. -/
theorem silent_load : (around.load effects word).Silent effects :=
  silent_locate.andThen fun _ _ => silent_loadFrom

theorem hierarchyOf_some (named : word ≠ "") : around.hierarchyOf effects (some word) =
    (around.load effects word).andThen fun effects unit => (effects, .ok unit.hierarchy) := by
  simp only [hierarchyOf, Option.getD_some, if_neg named]

/-- An extraction that delivers what can be written to standard output ends with the code for its
violations. -/
theorem ending_extract {unit : AnalysisUnit} {delivery : Delivery} {extraction : Extraction}
    (standard : delivery.output = .standard) (formed : delivery.format ≠ none)
    (bare : delivery.ledger.getD "" = "") (completed : unit.run.result = .ok extraction)
    (reportable : extraction.Reportable) :
    (around.extract effects unit delivery).ending =
      .exit (if extraction.violations = [] then success else violated) := by
  obtain ⟨format, formed⟩ := Option.ne_none_iff_exists'.mp formed
  simp only [extract, openOutput, standard, Step.andThen, completed, deliverReport, formed, Option.map_some,
    deliveredReport, reportable.report, Effects.deliver, deliverLedger, bare, if_true]
  rfl

/-- A task on a file without a unit ends over what is wrong with the file. -/
theorem perform_of_refused (reads : task.Reads word)
    (names : Names around effects.tree word path content) {fault : FileFault}
    (refused : (loadOctets content path.toText).result = .error fault) :
    (around.perform effects task).ending = endingOn fault := by
  have ended : (around.load effects word).2 = .error (endingOn fault) := by
    rw [load_of_names names, refused]
    rfl
  apply Step.ending_of_error
  cases reads with
  | check => exact Step.andThen_of_error ended
  | extract _ _ _ => exact Step.andThen_of_error ended
  | hierarchy named =>
    rw [perform, hierarchyOf_some named]
    exact Step.andThen_of_error (Step.andThen_of_error ended)

/-- A task on a unit ends well, or an extraction with the code for violations. -/
theorem perform_of_loaded (reads : task.Reads word)
    (names : Names around effects.tree word path content) {unit : AnalysisUnit}
    (loaded : (loadOctets content path.toText).result = .ok unit) {extraction : Extraction}
    (completed : unit.run.result = .ok extraction) (reportable : extraction.Reportable) :
    (around.perform effects task).ending = .exit success ∨
      (around.perform effects task).ending = .exit violated ∧ extraction.violations ≠ [] := by
  have went : (around.load effects word).2 = .ok unit := by
    rw [load_of_names names, loaded]
    rfl
  cases reads with
  | check =>
    left
    rw [perform, Step.andThen_of_ok went]
    rfl
  | hierarchy named =>
    left
    rw [perform, hierarchyOf_some named, Step.andThen_of_ok went]
    rfl
  | extract standard formed bare =>
    rw [perform, Step.andThen_of_ok went, ending_extract standard formed bare completed reportable]
    by_cases free : extraction.violations = []
    · left
      rw [if_pos free]
    · right
      exact ⟨by rw [if_neg free], free⟩

end Surroundings

theorem ending_run {words : List String} {verbosity : Nat}
    (asked : Request.ofWords words = .ok ⟨verbosity, some task⟩) :
    (run around tree words).ending = (around.perform { tree } task).ending := by
  simp only [run, asked]

/-- A run over a file without a unit ends over what is wrong with the file. -/
theorem ending_of_refused {words : List String} {verbosity : Nat}
    (asked : Request.ofWords words = .ok ⟨verbosity, some task⟩) (reads : task.Reads word)
    (names : Names around tree word path content) {fault : FileFault}
    (refused : (loadOctets content path.toText).result = .error fault) :
    (run around tree words).ending = endingOn fault := by
  rw [ending_run asked]
  exact Surroundings.perform_of_refused reads names refused

theorem endingOn_eq_crash {fault : FileFault} :
    endingOn fault = .crash .numeralTooLong ↔ fault = .malformed .numeralTooLong := by
  unfold endingOn
  split
  · next same => simp [same]
  · next other => simp [other]

/-- The pass over a unit of a file completes, and blames only constraints that count as errors. -/
theorem completes_of_loadOctets {source : String} {unit : AnalysisUnit}
    (loaded : (loadOctets content source).result = .ok unit) :
    ∃ extraction, unit.run.result = .ok extraction ∧
      ∀ constraint ∈ extraction.violations, unit.policy.status constraint = .error := by
  unfold loadOctets at loaded
  split at loaded
  · cases loaded
  · obtain ⟨declarations, extraction, _, policy, completed, blamed⟩ :=
      run_of_load (Outcome.mapError_eq_ok.mp loaded)
    refine ⟨extraction, completed, fun constraint member => ?_⟩
    rw [blamed] at member
    rw [policy]
    exact (of_decide_eq_true (List.mem_filter.mp member).2).counts

/-- What a pass over a unit of a file yields is reported as it stands. -/
theorem reportable_of_loadOctets {source : String} {unit : AnalysisUnit} {extraction : Extraction}
    (loaded : (loadOctets content source).result = .ok unit) (completed : unit.run.result = .ok extraction) :
    extraction.Reportable := by
  unfold loadOctets at loaded
  split at loaded
  · cases loaded
  · have numerals := hasNumeral_of_load (Outcome.mapError_eq_ok.mp loaded)
    refine Setting.reportable_of_extract completed (fun constraint member => ?_) fun _ kept => by cases kept
    exact Text.Spelling.writes_of_hasNumeral _ (numerals constraint member)

/-- A run over an unwritable file breaks off. -/
theorem ending_of_unwritable {words : List String} {verbosity : Nat}
    (asked : Request.ofWords words = .ok ⟨verbosity, some task⟩) (reads : task.Reads word)
    (names : Names around tree word path content) (unwritable : Unwritable content) :
    (run around tree words).ending = .crash .numeralTooLong := by
  have refused : (loadOctets content path.toText).result = .error (.malformed .numeralTooLong) :=
    loadOctets_numeralTooLong_iff.mpr unwritable
  rw [ending_of_refused asked reads names refused]
  exact endingOn_eq_crash.mpr rfl

/-- A run over a file breaks off exactly if the file is unwritable. Otherwise it ends with an exit code,
which is the one for failures exactly if the file yields no unit, and the one for violations only if it
yields a unit with violations that count as errors. -/
theorem ending_of_file {words : List String} {verbosity : Nat}
    (asked : Request.ofWords words = .ok ⟨verbosity, some task⟩) (reads : task.Reads word)
    (names : Names around tree word path content) :
    ((run around tree words).ending = .crash .numeralTooLong ↔ Unwritable content) ∧
      (¬ Unwritable content → ∃ code, (run around tree words).ending = .exit code ∧
        (code = failed ↔ ¬ ∃ unit, (loadFile tree around.directory path).result = .ok unit) ∧
        (code = violated → ∃ unit extraction constraint,
          (loadFile tree around.directory path).result = .ok unit ∧
          unit.run.result = .ok extraction ∧ constraint ∈ extraction.violations ∧
          unit.policy.status constraint = .error)) := by
  rw [loadFile_of_names names]
  cases read : (loadOctets content path.toText).result with
  | error fault =>
    have broken : fault = .malformed .numeralTooLong ↔ Unwritable content := by
      rw [← loadOctets_numeralTooLong_iff, read]
      exact (Except.error.injEq _ _).symm ▸ Iff.rfl
    rw [ending_of_refused asked reads names read, endingOn_eq_crash]
    refine ⟨broken, fun writable => ⟨failed, ?_, ?_, ?_⟩⟩
    · exact if_neg fun same => writable (broken.mp same)
    · simp
    · intro same
      cases same
  | ok unit =>
    obtain ⟨extraction, completed, blamed⟩ := completes_of_loadOctets read
    have writable : ¬ Unwritable content := by
      intro unwritable
      rw [loadOctets_numeralTooLong_iff.mpr unwritable] at read
      cases read
    have there : Names around ({ tree } : Effects).tree word path content := names
    rw [ending_run asked]
    have reportable := reportable_of_loadOctets read completed
    rcases Surroundings.perform_of_loaded reads there read completed reportable with
      ending | ⟨ending, some⟩
    · rw [ending]
      refine ⟨by simp [writable], fun _ => ⟨success, rfl, ?_, ?_⟩⟩
      · simp [success, failed]
      · intro same
        cases same
    · rw [ending]
      obtain ⟨constraint, member⟩ := List.exists_mem_of_ne_nil _ some
      refine ⟨by simp [writable], fun _ => ⟨violated, rfl, ?_, fun _ => ?_⟩⟩
      · simp [violated, failed]
      · exact ⟨unit, extraction, constraint, rfl, completed, member, blamed constraint member⟩

/-- A run from the root directory, with nothing else around it. -/
def fromRoot : Surroundings where
  directory := []
  homes := Table.empty
  levelName := ""
  clock := ""

/-- The tree of one file below the root. -/
def singleFile (content : List UInt8) : FileTree := FileTree.bare.put ["u.ctsl"] (.file content)

theorem names_singleFile (content : List UInt8) :
    Names fromRoot (singleFile content) "u.ctsl" (.fromRoot ["u.ctsl"]) content where
  resolved := by decide +kernel
  clean := by decide +kernel
  found := rfl

theorem plain_unit : "u.ctsl".toList.head? ≠ some '-' := by decide +kernel

/-- A file that is no text makes a run end with the code for failures. -/
theorem ending_of_file_undecodable :
    (run fromRoot (singleFile [0xFF]) ["check", "u.ctsl"]).ending = .exit failed := by
  have undecodable : (Text.Utf8.decode [0xFF]).toOption = none := by decide +kernel
  have writable : ¬ Unwritable [0xFF] := by
    rintro ⟨text, items, decoded, _⟩
    rw [decoded] at undecodable
    cases undecodable
  have names := names_singleFile [0xFF]
  have absent : ¬ ∃ unit, (loadFile (singleFile [0xFF]) fromRoot.directory
      (.fromRoot ["u.ctsl"])).result = .ok unit := by
    rintro ⟨unit, loaded⟩
    rw [loadFile_of_names names, loadOctets] at loaded
    split at loaded
    · cases loaded
    · next decoded =>
      rw [decoded] at undecodable
      cases undecodable
  obtain ⟨task, asked, reads⟩ := asked_of_plain .check plain_unit
  obtain ⟨code, ending, failure, _⟩ := (ending_of_file asked (reads (by decide)) names).2 writable
  exact ending.trans (congrArg Ending.exit (failure.mpr absent))

/-- A constraint between two references at a position, in pieces. -/
def constraintText (digits : List Char) : List Char :=
  ["constraint".toList, [' '], "a".toList, "<:".toList, "b".toList, "@".toList, digits,
    ";".toList].flatten

/-- What a test says of the fixed pieces and of the digits, it says of the whole text. -/
theorem test_constraintText {digits : List Char} {test : Char → Bool}
    (fixed : ["constraint".toList, [' '], "a".toList, "<:".toList, "b".toList, "@".toList,
      ";".toList].all (fun piece => piece.all test) = true)
    (numeral : digits.all test = true) : (constraintText digits).all test = true := by
  have each : ∀ piece ∈ ["constraint".toList, [' '], "a".toList, "<:".toList, "b".toList, "@".toList,
      digits, ";".toList], piece.all test = true := by
    intro piece listed
    by_cases own : piece = digits
    · rw [own]
      exact numeral
    · have other : piece ∈ ["constraint".toList, [' '], "a".toList, "<:".toList, "b".toList,
          "@".toList, ";".toList] := by
        simp only [List.mem_cons, own, false_or] at listed ⊢
        exact listed
      exact List.all_eq_true.mp fixed piece other
  exact List.all_flatten.trans (List.all_eq_true.mpr each)

theorem laidOut_constraintText {digits : List Char} (valid : (Token.digits digits).Valid) :
    LaidOut [.constraint ⟨0, "a", "b", digits, none, none⟩] (constraintText digits) := by
  have left : (Token.identifier "a").Valid := ⟨'a', [], by decide +kernel, by decide, by simp⟩
  have right : (Token.identifier "b").Valid := ⟨'b', [], by decide +kernel, by decide, by simp⟩
  have keyword : (Token.keyword "constraint").Valid := by
    show "constraint" ∈ Token.keywords
    decide
  have mark : ∀ chars ∈ ["<:", "@", ";"], (Token.mark chars).Valid := by
    show ∀ chars ∈ ["<:", "@", ";"], chars ∈ Token.marks
    decide
  have less : "<:".toList = ['<', ':'] := by decide +kernel
  have sign : "@".toList = ['@'] := by decide +kernel
  have text : constraintText digits = "constraint".toList ++ [' '] ++ ["a".toList, "<:".toList,
      "b".toList, "@".toList, digits, ";".toList].flatten :=
    (List.append_assoc _ _ _).symm
  rw [text]
  refine ⟨[], _, rfl, .nothing, .next keyword (by simp) (.blank (by decide) .nothing)
    (fun _ empty => by cases empty) ?_⟩
  refine .marked left less (by decide) (.tight (mark "<:" (by simp)) rfl ?_)
  refine .marked right sign (by decide) ?_
  refine .tight (mark "@" (by simp)) rfl (.tight valid rfl ?_)
  exact .tight (mark ";" (by simp)) rfl .done

/-- A constraint at position zero is unwritable with more zeros than a numeral has digits. -/
theorem unwritable_zeros {count : Nat} (long : Text.digitLimit < count) :
    Unwritable (Text.octets (constraintText (List.replicate count '0'))) := by
  have zeros : ∀ char ∈ List.replicate count '0', char = '0' :=
    fun char member => List.eq_of_mem_replicate member
  have valid : (Token.digits (List.replicate count '0')).Valid := by
    refine ⟨?_, fun char member => ?_⟩
    · intro empty
      have none := congrArg List.length empty
      rw [List.length_replicate, List.length_nil] at none
      omega
    · rw [zeros char member]
      decide
  have numeral : (List.replicate count '0').all (fun char => char.toNat < 128 && char != '\r') = true :=
    List.all_eq_true.mpr fun char member => by
      rw [zeros char member]
      decide
  have tested := test_constraintText (by decide +kernel) numeral
  have plain : ∀ char ∈ constraintText (List.replicate count '0'),
      char.toNat < 128 ∧ char ≠ '\r' := by
    intro char member
    simpa using List.all_eq_true.mp tested char member
  have decoded : Text.Utf8.decode (Text.octets (constraintText (List.replicate count '0'))) =
      .ok (constraintText (List.replicate count '0')) :=
    Text.decode_octets fun char member => (plain char member).1
  have same : Text.unifyNewlines (constraintText (List.replicate count '0')) =
      constraintText (List.replicate count '0') :=
    Text.unifyNewlines_of_not_mem fun member => (plain '\r' member).2 rfl
  have laid := laidOut_constraintText valid
  refine ⟨_, _, decoded, by rwa [same], _, List.mem_singleton_self _, ?_⟩
  rwa [List.length_replicate]

/-- Not every file that can be read makes a run over it end with an exit code. -/
theorem not_exit_longZero : ¬ ∀ around tree words verbosity task word path content,
    Request.ofWords words = .ok ⟨verbosity, some task⟩ → task.Reads word →
      Names around tree word path content → ∃ code, (run around tree words).ending = .exit code := by
  intro exits
  have unwritable := unwritable_zeros (Nat.lt_succ_self Text.digitLimit)
  obtain ⟨task, asked, reads⟩ := asked_of_plain .check plain_unit
  obtain ⟨code, ending⟩ := exits _ _ _ _ _ _ _ _ asked (reads (by decide)) (names_singleFile _)
  rw [ending_of_unwritable asked (reads (by decide)) (names_singleFile _) unwritable] at ending
  cases ending

end SchemeTyping.Command
