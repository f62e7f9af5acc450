import SchemeTyping.Conversion.Ledger
import SchemeTyping.Extraction.Requirement
import SchemeTyping.Extraction.Verdict
import SchemeTyping.Journal
import SchemeTyping.Text.Quoted

/-! Findings and the progress that collects them. What is found about a constraint depends on the
setting alone; the ledger only decides whether a conversion is reported. -/
namespace SchemeTyping

/-- What a pass finds about one constraint. -/
structure Finding where
  constraint : Constraint
  leftName : String
  verdict : Verdict
  requirement : Option Requirement
  deriving DecidableEq, Repr

/-- What passes have collected so far. The diagnostic lines are kept, and written out as they come. -/
structure Progress where
  ledger : Ledger := Ledger.empty
  violations : List Constraint := []
  diagnostics : List String := []
  written : String := ""
  asked : List Constraint := []
  journal : List Entry := []
  deriving DecidableEq

namespace Progress

def tell (progress : Progress) (level : Level) (text : String) : Progress :=
  { progress with journal := progress.journal ++ [⟨level, Channel.extraction, text⟩] }

/-- Keep a diagnostic line and write it out. -/
def emit (progress : Progress) (line : String) : Progress :=
  { progress with
    diagnostics := progress.diagnostics ++ [line]
    written := progress.written ++ (line ++ "\n") }

/-- The two lines that report a conversion, as they are where its position can be written. -/
def report (constraint : Constraint) (leftName : String) (conversion : Conversion) :
    List String :=
  [constraint.toText,
    "Line " ++ constraint.positionText ++ ": " ++ leftName ++ " " ++ conversion.source ++
      " => " ++ conversion.target]

/-- Record a conversion and report it unless its key was reported before. -/
def convert (progress : Progress) (constraint : Constraint) (leftName : String)
    (requirement : Requirement) : Progress :=
  let recorded := { progress with
    ledger := progress.ledger.record requirement.attributed requirement.conversion constraint.key
      constraint.sighting }
  if progress.ledger.isFresh constraint.key then
    (report constraint leftName requirement.conversion).foldl emit recorded
  else
    recorded.tell .debug ("Conversion " ++ requirement.conversion.toText ++ " under " ++
      requirement.attributed ++ " not diagnosed, key (" ++ constraint.positionText ++ ", " ++
      Text.quoted constraint.left.toList ++ ") seen")

/-- Record what a constraint requires, if anything. -/
def convert? (progress : Progress) (constraint : Constraint) (leftName : String) :
    Option Requirement → Progress
  | none => progress
  | some requirement => progress.convert constraint leftName requirement

/-- Take up a verdict. -/
def judge (progress : Progress) (constraint : Constraint) : Verdict → Progress
  | .unresolved => progress
  | .satisfied => progress
  | .tolerated lower upper =>
    { progress with asked := progress.asked ++ [constraint] }.tell .debug
      ("Tolerating " ++ constraint.toText ++ " (" ++ lower.name ++ " <: " ++ upper.name ++
        ") as " ++ Severity.warning.title)
  | .violated => { progress with asked := progress.asked ++ [constraint] }

/-- Keep a constraint that is violated. -/
def blame (progress : Progress) (constraint : Constraint) (verdict : Verdict) : Progress :=
  if verdict.isViolation then
    { progress with violations := progress.violations ++ [constraint] }
  else progress

/-- Take up a finding: its verdict, then its conversion. -/
def note (progress : Progress) (finding : Finding) : Progress :=
  ((progress.judge finding.constraint finding.verdict).blame finding.constraint
    finding.verdict).convert? finding.constraint finding.leftName finding.requirement

end Progress

namespace Setting

/-- What there is to find about one constraint. -/
def examine (setting : Setting) (constraint : Constraint) : Except Failure Finding :=
  match setting.ends constraint with
  | .error failure => .error failure
  | .ok (left, right) =>
    (setting.verdictOn constraint left right).map fun verdict =>
      ⟨constraint, setting.typing.displayName left, verdict,
        setting.requirementOn constraint left right⟩

/-- Record the conversion that one constraint requires, if any, and give it back. -/
def convert (setting : Setting) (progress : Progress) (constraint : Constraint) :
    Except Failure (Progress × Option Conversion) :=
  match setting.ends constraint with
  | .error failure => .error failure
  | .ok (left, right) =>
    let requirement := setting.requirementOn constraint left right
    .ok (progress.convert? constraint (setting.typing.displayName left) requirement,
      requirement.map Requirement.conversion)

/-- The findings about constraints in order, up to the first failure. -/
def survey (setting : Setting) : List Constraint → List Finding × Option Failure
  | [] => ([], none)
  | constraint :: rest =>
    match setting.examine constraint with
    | .error failure => ([], some failure)
    | .ok finding =>
      let later := setting.survey rest
      (finding :: later.1, later.2)

/-- Check constraints in order and collect what is found; a failure keeps what came before it. -/
def check (setting : Setting) (progress : Progress) (constraints : List Constraint) :
    Progress × Option Failure :=
  let started := progress.tell .info "Verifying the concrete typing..."
  let (findings, failure) := setting.survey constraints
  let checked := findings.foldl Progress.note started
  match failure with
  | some failure => (checked, some failure)
  | none =>
    ((checked.tell .info ("Finished verifying the concrete typing. " ++
        toString checked.violations.length ++ " error(s)")).tell .info
      ("Finished extracting type conversions. " ++ toString checked.ledger.size ++
        " conversion(s)"), none)

end Setting
end SchemeTyping
