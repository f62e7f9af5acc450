import SchemeTyping.Proofs.Command.Options
import SchemeTyping.Proofs.Command.Unloaded
import SchemeTyping.Proofs.Extraction.Collection
import SchemeTyping.Proofs.Files.Writing

/-! Delivery of an extraction. What a run on a unit finds does not depend on where the report goes and in
which form, nor on whether diagnostic lines and a ledger are wanted: each destination receives its share of
one and the same extraction. -/
namespace SchemeTyping.Command
open AnalysisUnit FileTree
variable {around : Surroundings} {tree : FileTree} {effects : Effects} {word : String} {path : Path}
  {unit : AnalysisUnit} {report ledger : Option (List String)}

/-- A word of the command line stands for a path from the root that leads downwards only. -/
theorem parts_of_resolve (resolved : around.resolve word = .ok path) :
    ∃ parts, path = .fromRoot parts ∧ ".." ∉ parts := by
  simp only [Surroundings.resolve] at resolved
  split at resolved
  · cases resolved
  · split at resolved
    · cases resolved
    · split at resolved
      · cases resolved
      · cases resolved
        exact ⟨_, rfl, Path.plain_collapse _⟩

theorem plain_of_resolve {place : List String} (resolved : around.resolve word = .ok (.fromRoot place)) :
    ".." ∉ place := by
  obtain ⟨parts, same, plain⟩ := parts_of_resolve resolved
  obtain rfl : place = parts := congrArg Path.parts same
  exact plain

/-- A file that yields a unit is there, and its octets yield the unit. -/
theorem read_of_loaded {directory : List String} (loaded : (loadFile tree directory path).result = .ok unit) :
    ∃ node content, tree.find directory path = .ok node ∧
      (loadOctets content path.toText).result = .ok unit := by
  unfold loadFile at loaded
  split at loaded
  · cases loaded
  · unfold FileTree.read at loaded
    cases found : tree.find directory path with
    | error reason =>
      rw [found] at loaded
      cases loaded
    | ok node =>
      rw [found] at loaded
      cases node with
      | directory => cases loaded
      | file content => exact ⟨_, content, rfl, loaded⟩
      | sink => exact ⟨_, [], rfl, loaded⟩

/-- Where a destination leads: to standard output, or to a file that can be written. -/
inductive Destination.To (around : Surroundings) (tree : FileTree) :
    Destination → Option (List String) → Prop where
  | standard : To around tree .standard none
  | file {word : String} {place : List String} (resolved : around.resolve word = .ok (.fromRoot place))
      (writable : tree.Writable place) : To around tree (.file word) (some place)

/-- Where a ledger goes: nowhere, or to a file that can be written. -/
inductive LedgerTo (around : Surroundings) (tree : FileTree) :
    Option String → Option (List String) → Prop where
  | nowhere {word : Option String} (bare : word.getD "" = "") : LedgerTo around tree word none
  | file {word : String} {place : List String} (named : word ≠ "")
      (resolved : around.resolve word = .ok (.fromRoot place))
      (writable : tree.Writable place) : LedgerTo around tree (some word) (some place)

theorem Destination.To.writable {output : Destination} (leads : output.To around tree report) :
    ∀ place, report = some place → tree.Writable place := by
  rintro place rfl
  cases leads with
  | file _ writable => exact writable

theorem Destination.To.usable {output : Destination} (leads : output.To around tree report) :
    ∀ place, report = some place → Usable place := by
  rintro place rfl
  cases leads with
  | file resolved writable => exact writable.usable (plain_of_resolve resolved)

theorem LedgerTo.writable {word : Option String} (leads : LedgerTo around tree word ledger) :
    ∀ place, ledger = some place → tree.Writable place := by
  rintro place rfl
  cases leads with
  | file _ _ writable => exact writable

namespace Effects

/-- A text is written to a place that is writable, and nothing else happens. -/
theorem writeBelow_of_writable {place : List String} (text : String)
    (root : effects.tree.node? [] ≠ none) (plain : ".." ∉ place)
    (writable : effects.tree.Writable place) : ∃ after,
      effects.writeBelow (.fromRoot place) text = ({ effects with tree := after }, .ok ()) ∧
      effects.tree.Received text (some place) after := by
  obtain ⟨middle, after, made, wrote, done⟩ :=
    write_of_writable text.toUTF8.data.toList (writable.root root) plain writable
  refine ⟨after, ?_, .inside done⟩
  simp only [writeBelow, makeAbove, made, Step.andThen, write, wrote]

end Effects

namespace Surroundings

/-- A file that a report goes to is emptied. -/
theorem openOutput_of_to {output : Destination} (root : effects.tree.node? [] ≠ none)
    (leads : output.To around effects.tree report) : ∃ opened,
      around.openOutput effects output =
        ({ effects with tree := opened }, .ok (report.map Path.fromRoot)) ∧
      effects.tree.Received "" report opened := by
  cases leads with
  | standard => exact ⟨effects.tree, rfl, .outside⟩
  | file resolved writable =>
    obtain ⟨opened, wrote, received⟩ :=
      Effects.writeBelow_of_writable "" root (plain_of_resolve resolved) writable
    refine ⟨opened, ?_, received⟩
    simp only [openOutput, resolved, wrote, Step.andThen, Option.map_some]

/-- Where the emptied file was received, the report is received in its place. -/
theorem deliverReport_of_received {before : FileTree} (effects : Effects) (lines : String)
    {format : Report.Format} {write : Report.Format → Except Text.TooManyDigits String} {text : String}
    (reported : write format = .ok text) (opened : before.Received "" report effects.tree)
    (usable : ∀ place, report = some place → Usable place) : ∃ after,
      deliverReport effects (report.map Path.fromRoot) lines (some format) write =
        ({ effects with
            tree := after
            output := effects.output ++ if report = none then lines ++ text else "" },
          .ok ()) ∧
      before.Received (lines ++ text) report after := by
  cases opened with
  | outside =>
    exact ⟨effects.tree, by simp [deliverReport, reported, Effects.deliver, Effects.print], .outside⟩
  | inside emptied =>
    obtain ⟨after, wrote, done⟩ := write_of_paved
      (lines ++ text).toUTF8.data.toList (usable _ rfl) emptied.paved emptied.free
    refine ⟨after, ?_, .inside (emptied.again done)⟩
    simp only [deliverReport, reported, Effects.deliver, Option.map_some, Effects.write, wrote, reduceCtorEq,
      if_false, String.append_empty]

/-- The ledger is received where it can be written. -/
theorem deliverLedger_of_to {word : Option String} (effects : Effects) (extraction : Extraction)
    (reportable : extraction.Reportable) (root : effects.tree.node? [] ≠ none)
    (leads : LedgerTo around effects.tree word ledger) :
    (around.deliverLedger effects word extraction).2 = .ok () ∧
      (around.deliverLedger effects word extraction).1.output = effects.output ∧
      effects.tree.Received (Report.ledgerJson extraction.ledger ++ "\n") ledger
        (around.deliverLedger effects word extraction).1.tree := by
  cases leads with
  | nowhere bare =>
    simp only [deliverLedger, bare, if_true]
    exact ⟨trivial, trivial, .outside⟩
  | file named resolved writable =>
    obtain ⟨after, wrote, received⟩ := Effects.writeBelow_of_writable
      (Report.ledgerJson extraction.ledger ++ "\n") root (plain_of_resolve resolved) writable
    simp only [deliverLedger, Option.getD_some, if_neg named, resolved, reportable.ledger, wrote, Step.andThen]
    exact ⟨trivial, rfl, received⟩

end Surroundings

/-- The files of a delivery can be written, the ledger when the report is there. They are not one file, and
neither is the one that the unit stands in. -/
structure Delivery.Feasible (around : Surroundings) (tree : FileTree) (own : List String)
    (delivery : Delivery) (report ledger : Option (List String)) : Prop where
  outputTo : delivery.output.To around tree report
  ledgerTo : ∀ text after, tree.Received text report after → LedgerTo around after delivery.ledger ledger
  apart : ∀ place, report = some place → ledger ≠ some place
  reportElsewhere : report ≠ some own
  ledgerElsewhere : ledger ≠ some own

/-- A ledger can still be written when the report has been received, unless one of the two files would
stand above the other. -/
theorem LedgerTo.later {word : Option String} {text : String} {after : FileTree}
    (ledgerTo : LedgerTo around tree word ledger) (received : tree.Received text report after)
    (apart : ∀ first second, report = some first → ledger = some second →
      ¬ first <+: second ∧ ¬ second <+: first) : LedgerTo around after word ledger := by
  cases received with
  | outside => exact ledgerTo
  | inside wrote =>
    cases ledgerTo with
    | nowhere bare => exact .nowhere bare
    | file named resolved writable =>
      obtain ⟨below, above⟩ := apart _ _ rfl rfl
      exact .file named resolved (writable.elsewhere wrote below above)

/-- A delivery is feasible if each of its files can be written, unless one would stand above the other. -/
theorem Delivery.feasible_of_apart {own : List String} {delivery : Delivery}
    (outputTo : delivery.output.To around tree report)
    (ledgerTo : LedgerTo around tree delivery.ledger ledger)
    (apart : ∀ first second, report = some first → ledger = some second →
      ¬ first <+: second ∧ ¬ second <+: first)
    (reportElsewhere : report ≠ some own) (ledgerElsewhere : ledger ≠ some own) :
    delivery.Feasible around tree own report ledger where
  outputTo := outputTo
  ledgerTo _ _ received := ledgerTo.later received apart
  apart place first second := (apart place place first second).1 List.prefix_rfl
  reportElsewhere := reportElsewhere
  ledgerElsewhere := ledgerElsewhere

/-- What a run leaves behind that delivers an extraction: its ending, and the share of each destination. All
other things in the file tree stay. -/
structure Outcome.Delivers (outcome : Outcome) (tree : FileTree) (report ledger : Option (List String))
    (text : String) (extraction : Extraction) : Prop where
  ending : outcome.ending = .exit (if extraction.violations = [] then success else violated)
  output : outcome.output = if report = none then text else ""
  reportHolds : ∀ place, report = some place →
    outcome.tree.node? place = some (written (tree.node? place) text.toUTF8.data.toList)
  ledgerHolds : ∀ place, ledger = some place → outcome.tree.node? place =
    some (written (tree.node? place) (Report.ledgerJson extraction.ledger ++ "\n").toUTF8.data.toList)
  stays : ∀ way node, tree.node? way = some node → report ≠ some way → ledger ≠ some way →
    outcome.tree.node? way = some node

namespace Surroundings

/-- An extraction on a unit delivers what the pass over the unit yields. -/
theorem extract_of_feasible (effects : Effects) {own : List String} {delivery : Delivery}
    {format : Report.Format} {extraction : Extraction} (root : effects.tree.node? [] ≠ none)
    (feasible : delivery.Feasible around effects.tree own report ledger)
    (formed : delivery.format = some format) (completed : unit.run.result = .ok extraction)
    (reportable : extraction.Reportable) :
    let text := deliveredLines extraction delivery ++
      Report.print extraction format (some ⟨unit.store, unit.run.typing⟩)
    let step := around.extract effects unit delivery
    step.2 = .ok (if extraction.violations = [] then success else violated) ∧
      (step.1.output = effects.output ++ if report = none then text else "") ∧
      ∃ between, effects.tree.Received text report between ∧
        between.Received (Report.ledgerJson extraction.ledger ++ "\n") ledger step.1.tree := by
  intro text step
  have usable : ∀ place, report = some place → Usable place := feasible.outputTo.usable
  have writable := feasible.outputTo.writable
  obtain ⟨opened, emptied, empty⟩ := openOutput_of_to root feasible.outputTo
  let started : Effects := { effects with tree := opened, journal := effects.journal ++ unit.run.journal }
  have reportText : deliveredReport unit unit.run extraction format =
      .ok (Report.print extraction format (some ⟨unit.store, unit.run.typing⟩)) :=
    reportable.report _ _
  obtain ⟨between, printed, received⟩ := deliverReport_of_received started
    (deliveredLines extraction delivery) reportText empty usable
  have stillRoot : between.node? [] ≠ none := by
    obtain ⟨node, stood⟩ := Option.ne_none_iff_exists'.mp root
    rw [received.keeps writable stood fun same => (writable [] same).below rfl]
    exact Option.some_ne_none node
  let done : Effects :=
    { started with tree := between, output := effects.output ++ if report = none then text else "" }
  have noted := deliverLedger_of_to done extraction reportable stillRoot (feasible.ledgerTo _ _ received)
  have went : step = (around.deliverLedger done delivery.ledger extraction).andThen fun effects _ =>
      (effects, .ok (if extraction.violations = [] then success else violated)) := by
    show around.extract effects unit delivery = _
    rw [extract, Step.andThen_of_ok (congrArg Prod.snd emptied), emptied]
    simp only [completed, formed]
    exact (Step.andThen_of_ok (congrArg Prod.snd printed)).trans (by rw [printed])
  rw [went, Step.andThen_of_ok noted.1]
  exact ⟨rfl, noted.2.1, between, received, noted.2.2⟩

/-- The unit that a file yields is loaded, and no more than the journal changes. -/
theorem load_of_loaded (resolved : around.resolve word = .ok path)
    (loaded : (loadFile effects.tree around.directory path).result = .ok unit) :
    ∃ journal, around.load effects word = ({ effects with journal }, .ok unit) := by
  obtain ⟨node, _, found, _⟩ := read_of_loaded loaded
  rw [load, locate_of_found resolved found]
  simp only [Step.andThen, loadFrom, loaded]
  exact ⟨_, rfl⟩

end Surroundings

/-- What the report receives and then the ledger, a run has delivered. -/
theorem delivers_of_received {own : List String} {delivery : Delivery} {text : String}
    {extraction : Extraction} {outcome : Outcome} {between : FileTree}
    (feasible : delivery.Feasible around tree own report ledger)
    (ending : outcome.ending = .exit (if extraction.violations = [] then success else violated))
    (output : outcome.output = if report = none then text else "")
    (received : tree.Received text report between)
    (noted : between.Received (Report.ledgerJson extraction.ledger ++ "\n") ledger outcome.tree) :
    outcome.Delivers tree report ledger text extraction := by
  have writable := feasible.outputTo.writable
  have writableThen := (feasible.ledgerTo _ _ received).writable
  refine ⟨ending, output, ?_, ?_, ?_⟩
  · rintro place rfl
    exact noted.keeps writableThen received.holds (feasible.apart place rfl)
  · rintro place rfl
    have before : between.node? place = tree.node? place :=
      received.untouched (writableThen place rfl).free fun same => feasible.apart place same rfl
    rw [noted.holds, before]
  · intro way node stood offReport offLedger
    exact noted.keeps writableThen (received.keeps writable stood offReport) offLedger

/-- The unit can be loaded again when report and ledger have been received. -/
theorem loadFile_of_received {own directory : List String} {delivery : Delivery} {between after : FileTree}
    {text noted : String} {node : Node} (feasible : delivery.Feasible around tree own report ledger)
    (plain : ".." ∉ own) (found : tree.find directory (.fromRoot own) = .ok node)
    (received : tree.Received text report between) (later : between.Received noted ledger after) :
    loadFile after directory (.fromRoot own) = loadFile tree directory (.fromRoot own) := by
  have still : between.find directory (.fromRoot own) = .ok node :=
    received.finds feasible.outputTo.writable plain found feasible.reportElsewhere
  have again : after.find directory (.fromRoot own) = .ok node :=
    later.finds (feasible.ledgerTo _ _ received).writable plain still feasible.ledgerElsewhere
  simp only [loadFile, FileTree.read, found, again]

/-- A run on a unit that is loaded ends as the extraction does, with its effects. -/
theorem run_of_loaded {words : List String} {verbosity : Nat} {delivery : Delivery} {journal : List Entry}
    (asked : Request.ofWords words = .ok ⟨verbosity, some (.extract word delivery)⟩)
    (went : around.load { tree } word = ({ tree, journal }, .ok unit)) :
    (run around tree words).tree = (around.extract { tree, journal } unit delivery).1.tree ∧
      (run around tree words).output = (around.extract { tree, journal } unit delivery).1.output ∧
      (run around tree words).ending = (around.extract { tree, journal } unit delivery).ending := by
  simp only [run, asked, Surroundings.perform, went, Step.andThen, and_self]

/-- Options of output do not change the outcome of an extraction. A unit that can be loaded has one
extraction, and every run on it that can deliver ends with the code for the violations in it. The report's
destination receives the diagnostic lines, if they are wanted, and the report in the form asked for; the
ledger's file receives the ledger. The unit is still there afterwards, and checking it ends well. -/
theorem extract_delivers (resolved : around.resolve word = .ok path)
    (loaded : (loadFile tree around.directory path).result = .ok unit) :
    ∃ extraction, unit.run.result = .ok extraction ∧
      unit.run.written = linesText extraction.diagnostics ∧
      (∀ words verbosity, Request.ofWords words = .ok ⟨verbosity, some (.check word)⟩ →
        (run around tree words).ending = .exit success) ∧
      ∀ words verbosity delivery format report ledger,
        Request.ofWords words = .ok ⟨verbosity, some (.extract word delivery)⟩ →
        delivery.format = some format →
        delivery.Feasible around tree path.parts report ledger →
        (run around tree words).Delivers tree report ledger
            ((if delivery.quiet then "" else unit.run.written) ++
              Report.print extraction format (some ⟨unit.store, unit.run.typing⟩)) extraction ∧
          (loadFile (run around tree words).tree around.directory path).result = .ok unit := by
  obtain ⟨own, rfl, plain⟩ := parts_of_resolve resolved
  obtain ⟨node, content, found, octets⟩ := read_of_loaded loaded
  obtain ⟨extraction, completed, _⟩ := completes_of_loadOctets octets
  have lines : unit.run.written = linesText extraction.diagnostics :=
    Setting.written_of_completed completed
  obtain ⟨journal, went⟩ : ∃ journal, around.load { tree } word = ({ tree, journal }, .ok unit) :=
    Surroundings.load_of_loaded resolved loaded
  refine ⟨extraction, completed, lines, ?_, ?_⟩
  · intro words verbosity asked
    rw [ending_run asked, Surroundings.perform, went]
    rfl
  · intro words verbosity delivery format report ledger asked formed feasible
    have reportable := reportable_of_loadOctets octets completed
    obtain ⟨ended, output, between, received, noted⟩ := Surroundings.extract_of_feasible { tree, journal }
      (root_of_find found) feasible formed completed reportable
    obtain ⟨left, printed, ending⟩ := run_of_loaded asked went
    rw [Step.ending, ended] at ending
    rw [output, String.empty_append] at printed
    rw [← left] at noted
    have kept : loadFile (run around tree words).tree around.directory (.fromRoot own) =
        loadFile tree around.directory (.fromRoot own) :=
      loadFile_of_received feasible plain found received noted
    rw [kept, lines]
    exact ⟨delivers_of_received feasible ending printed received noted, loaded⟩

/-- A unit with one violation. -/
def violating : List UInt8 :=
  Text.octets "ref x: variable {RND};\nref y: variable {DET};\nconstraint x <: y @ 3;".toList

/-- A report as JSON in a directory that is not there yet, and a ledger. -/
def toFiles : List Spelled :=
  [⟨.format .json, "-f", by decide, fun _ own => Option.some.inj own ▸ .inl (by decide +kernel)⟩,
    ⟨.output "out/report.json", "-o", by decide, fun _ own => Option.some.inj own ▸ .inl (by decide +kernel)⟩,
    ⟨.ledger "ledger.json", "--ledger", by decide,
      fun _ own => Option.some.inj own ▸ .inl (by decide +kernel)⟩]

/-- The report takes the diagnostic lines along, and the run ends with the code for violations. -/
theorem extract_delivers_twoFiles : ∃ (unit : AnalysisUnit) (extraction : Extraction),
    unit.run.result = .ok extraction ∧
    let outcome := run fromRoot (singleFile violating)
      ["extract", "u.ctsl", "-f", "json", "-o", "out/report.json", "--ledger", "ledger.json"]
    outcome.ending = .exit violated ∧
      outcome.Delivers (singleFile violating) (some ["out", "report.json"]) (some ["ledger.json"])
        (unit.run.written ++ Report.print extraction .json (some ⟨unit.store, unit.run.typing⟩))
        extraction := by
  have names := names_singleFile violating
  have evaluated : (loadOctets violating (Path.fromRoot ["u.ctsl"]).toText).result.toOption.map
      (fun unit => unit.run.result.toOption.map fun extraction => extraction.violations.length) =
      some (some 1) := by
    decide +kernel
  obtain ⟨unit, loaded, blamed⟩ := Outcome.exists_of_toOption_map evaluated
  rw [← loadFile_of_names names] at loaded
  have asked : Request.ofWords
      ["extract", "u.ctsl", "-f", "json", "-o", "out/report.json", "--ledger", "ledger.json"] =
      .ok ⟨0, some (.extract "u.ctsl" (deliveryOf toFiles))⟩ :=
    asked_of_options toFiles (.inl plain_unit)
  have feasible : (deliveryOf toFiles).Feasible fromRoot (singleFile violating) ["u.ctsl"]
      (some ["out", "report.json"]) (some ["ledger.json"]) := by
    refine Delivery.feasible_of_apart (.file (by decide +kernel) (by decide +kernel))
      (.file (by decide) (by decide +kernel) (by decide +kernel)) ?_ (by decide) (by decide)
    rintro _ _ ⟨⟩ ⟨⟩
    decide
  obtain ⟨extraction, completed, _, _, delivers⟩ := extract_delivers names.resolved loaded
  have delivered := (delivers _ _ _ _ _ _ asked rfl feasible).1
  obtain ⟨other, same, one⟩ := Outcome.exists_of_toOption_map blamed
  obtain rfl : extraction = other := Except.ok.inj (completed.symm.trans same)
  have violates : extraction.violations ≠ [] := fun none => by simp [none] at one
  exact ⟨unit, extraction, completed, delivered.ending.trans (by rw [if_neg violates]), delivered⟩

end SchemeTyping.Command
