import SchemeTyping.AnalysisUnit.File
import SchemeTyping.Command.Effects
import SchemeTyping.Command.Usage
import SchemeTyping.Log

/-! Running commands. A run is a function of the command line, the surroundings and the file tree. A
unit is loaded before anything is written, so that a command without a unit leaves the tree alone. -/
namespace SchemeTyping.Command

/-- What a run finds around it: the working directory, the homes of users by name with that of the
current user under the empty name, the level name set for the log, and the time. -/
structure Surroundings where
  directory : List String
  homes : Table String Path
  levelName : String
  clock : String

/-- The exit code where all is well. -/
def success : Nat := 0

/-- The exit code of an extraction that finds violations. -/
def violated : Nat := 1

/-- The exit code where there is no result. -/
def failed : Nat := 2

/-- The diagnostic lines that an extraction delivers, none if they are not wanted. -/
def deliveredLines (extraction : Extraction) (delivery : Delivery) : String :=
  if delivery.quiet then "" else linesText extraction.diagnostics

/-- The report that an extraction delivers in a format. -/
def deliveredReport (unit : AnalysisUnit) (pass : Pass) (extraction : Extraction)
    (format : Report.Format) : Except Text.TooManyDigits String :=
  Report.write extraction format (some ⟨unit.store, pass.typing⟩)

/-- The line on a unit that can be loaded. -/
def checkLine (unit : AnalysisUnit) : String :=
  let bare := unit.store.references.filter fun reference =>
    (unit.typing.profile reference).candidates.members = []
  unit.source ++ ": OK, " ++ toString unit.store.size ++ " reference(s), " ++
    toString unit.constraints.length ++ " constraint(s), " ++ toString bare.length ++
    " without candidates\n"

namespace Surroundings

/-- The absolute path that a word of the command line stands for. The home of a user is found before
the rest of the path is looked at. -/
def resolve (around : Surroundings) (text : String) : Except Crash Path :=
  let path := Path.ofText text
  if '\x00' ∈ (path.user?.getD "").toList then .error .nullCharacter
  else
    match path.expandHome around.homes with
    | none => .error .homeless
    | some path =>
      if '\x00' ∈ path.toText.toList then .error .nullCharacter
      else .ok (path.resolve around.directory)

/-- The path of a unit that is there. -/
def locate (around : Surroundings) (effects : Effects) (text : String) : Step Path :=
  match around.resolve text with
  | .error crash => effects.crash crash
  | .ok path =>
    match effects.tree.find around.directory path with
    | .ok _ => (effects, .ok path)
    | .error .tooLong => effects.crash (.unusable ⟨.tooLong, path⟩)
    | .error _ =>
      (effects.tell .error ("unit file not found: " ++ path.toText), .error (.exit failed))

/-- Load the unit at a path. A fault with a diagnostic is logged. -/
def loadFrom (around : Surroundings) (effects : Effects) (path : Path) : Step AnalysisUnit :=
  let started := effects.tell .info ("Loading analysis unit: " ++ path.toText)
  let loading := AnalysisUnit.loadFile effects.tree around.directory path
  let effects := started.append loading.journal
  match loading.result with
  | .ok unit => (effects, .ok unit)
  | .error fault =>
    match fault.diagnostic? path.toText with
    | some diagnostic => (effects.tell .error diagnostic.toText, .error (.exit failed))
    | none => effects.crash (if fault = .nullCharacter then .nullCharacter else .numeralTooLong)

/-- Load the unit that a word of the command line names. -/
def load (around : Surroundings) (effects : Effects) (text : String) : Step AnalysisUnit :=
  (around.locate effects text).andThen fun effects path => around.loadFrom effects path

/-- The file that a report goes to, none for standard output. The file is emptied at once. -/
def openOutput (around : Surroundings) (effects : Effects) :
    Destination → Step (Option Path)
  | .standard => (effects, .ok none)
  | .nowhere => effects.crash .nowhere
  | .file word =>
    match around.resolve word with
    | .error crash => effects.crash crash
    | .ok path => (effects.writeBelow path "").andThen fun effects _ => (effects, .ok (some path))

/-- Write the ledger of an extraction to a file if one is named. The directories above the file are
there before the ledger is put into text. -/
def deliverLedger (around : Surroundings) (effects : Effects) (ledger : Option String)
    (extraction : Extraction) : Step Unit :=
  let text := ledger.getD ""
  if text = "" then (effects, .ok ())
  else
    match around.resolve text with
    | .error crash => effects.crash crash
    | .ok path =>
      match Report.writeLedger extraction.ledger with
      | .error _ => (effects.makeAbove path).andThen fun effects _ => effects.crash .numeralTooLong
      | .ok ledger =>
        (effects.writeBelow path (ledger ++ "\n")).andThen fun effects _ =>
          (effects.tell .info ("Wrote " ++ toString extraction.ledger.total ++
            " conversion(s) to " ++ path.toText), .ok ())

/-- Deliver the diagnostic lines and the report. The lines come out even if there is no report,
because it has no format or cannot be written. -/
def deliverReport (effects : Effects) (output : Option Path) (lines : String)
    (format : Option Report.Format) (report : Report.Format → Except Text.TooManyDigits String) :
    Step Unit :=
  match format.map report with
  | some (.ok report) => effects.deliver output (lines ++ report)
  | some (.error _) =>
    (effects.deliver output lines).andThen fun effects _ => effects.crash .numeralTooLong
  | none =>
    (effects.deliver output lines).andThen fun effects _ => effects.crash .formless

/-- Run the pass over a unit and deliver what it yields. -/
def extract (around : Surroundings) (effects : Effects) (unit : AnalysisUnit)
    (delivery : Delivery) : Step Nat :=
  (around.openOutput effects delivery.output).andThen fun effects output =>
    let pass := unit.run
    let effects := effects.append pass.journal
    match pass.result with
    | .error failure => effects.crash (.engine failure)
    | .ok extraction =>
      (deliverReport effects output (deliveredLines extraction delivery) delivery.format
        (deliveredReport unit pass extraction)).andThen fun effects _ =>
          (around.deliverLedger effects delivery.ledger extraction).andThen fun effects _ =>
            (effects, .ok (if extraction.violations = [] then success else violated))

/-- The hierarchy of a unit. No word or an empty one means the default. -/
def hierarchyOf (around : Surroundings) (effects : Effects) (unit : Option String) :
    Step Hierarchy :=
  let text := unit.getD ""
  if text = "" then (effects, .ok .schemes)
  else (around.load effects text).andThen fun effects unit => (effects, .ok unit.hierarchy)

def perform (around : Surroundings) (effects : Effects) : Task → Step Nat
  | .extract unit delivery =>
    (around.load effects unit).andThen fun effects unit => around.extract effects unit delivery
  | .check unit =>
    (around.load effects unit).andThen fun effects unit =>
      (effects.print (checkLine unit), .ok success)
  | .hierarchy unit =>
    (around.hierarchyOf effects unit).andThen fun effects hierarchy =>
      (effects.print (linesText hierarchy.describe), .ok success)

end Surroundings

/-- The whole of a run: the file tree after it, the two standard streams and the ending. -/
structure Outcome where
  tree : FileTree
  output : String
  errors : String
  ending : Ending
  deriving DecidableEq, Repr

def Stop.code : Stop → Nat
  | .misuse _ _ => failed
  | .help _ => success
  | .version => success

/-- Run a command line. The log is configured before the task, and without a task there is help. -/
def run (around : Surroundings) (tree : FileTree) (words : List String) : Outcome :=
  match Request.ofWords words with
  | .error stop => ⟨tree, stop.output, stop.errors, .exit stop.code⟩
  | .ok request =>
    let notice := Log.fresh.emitAll around.clock (Log.notice around.levelName)
    match request.task with
    | none => ⟨tree, "", notice ++ helpText none, .exit failed⟩
    | some task =>
      let step := around.perform { tree } task
      let log := Log.fresh.configure request.verbosity around.levelName
      ⟨step.1.tree, step.1.output, notice ++ log.emitAll around.clock step.1.journal, step.ending⟩

end SchemeTyping.Command
