import SchemeTyping.Extraction.Pass

/-! Reports on an extraction, as text for people and as JSON for programs. With a store at hand each
end of a violated constraint is shown with its resolved qualifier. Nothing is reported if a position
in the report has too many digits; the counts beside them are lengths of lists, which have few. -/
namespace SchemeTyping

/-- Where the ends of a constraint are looked up: a store and the typing of its references. -/
structure Lookup where
  store : Store
  typing : Typing

namespace Report

/-- One end of a constraint in a text report. -/
def endText (lookup : Option Lookup) (identifier : String) : String :=
  match lookup with
  | none => identifier
  | some lookup =>
    match lookup.store.find? identifier with
    | none => identifier
    | some reference =>
      let profile := lookup.typing.profile reference
      profile.name ++ ":" ++ match profile.resolved with
        | some qualifier => qualifier.name
        | none => "?"

/-- The lines on one violation under its number. -/
def violationLines (lookup : Option Lookup) (number : Nat) (violation : Constraint) :
    List String :=
  let place := if violation.position = 0 then "synthetic" else
    "line " ++ violation.positionText
  ("[" ++ toString number ++ "] " ++ place ++ ": " ++ endText lookup violation.left ++
    " is not a subtype of " ++ endText lookup violation.right) ::
    if violation.label = "" then [] else ["    note: " ++ violation.label]

/-- The lines on violations numbered from one on. -/
def numberedLines (lookup : Option Lookup) : Nat → List Constraint → List String
  | _, [] => []
  | number, violation :: rest =>
    violationLines lookup number violation ++ numberedLines lookup (number + 1) rest

/-- Violations as text. -/
def violationsText (violations : List Constraint) (lookup : Option Lookup) : String :=
  if violations = [] then "No subtype violations detected.\n"
  else
    linesText (numberedLines lookup 1 violations ++
      ["", "--- " ++ toString violations.length ++ " violation(s) ---"])

/-- The field for the resolved qualifier of one end, if the end is known and resolved. -/
def qualifierField (lookup : Option Lookup) (key identifier : String) :
    List (String × Json.Value) :=
  match lookup with
  | none => []
  | some lookup =>
    match (lookup.store.find? identifier).bind fun reference =>
        (lookup.typing.profile reference).resolved with
    | some qualifier => [(key, .text qualifier.name)]
    | none => []

/-- One violation as a JSON record. -/
def violationJson (lookup : Option Lookup) (violation : Constraint) : Json.Value :=
  .record ([("pos", .ofNumber violation.position violation.spelling),
      ("left", .text violation.left), ("right", .text violation.right)] ++
    (if violation.label = "" then [] else [("label", .text violation.label)]) ++
    qualifierField lookup "left_qualifier" violation.left ++
    qualifierField lookup "right_qualifier" violation.right)

/-- The fields on the violations. -/
def violationFields (violations : List Constraint) (lookup : Option Lookup) :
    List (String × Json.Value) :=
  [("violation_count", .number violations.length),
    ("violations", .list (violations.map (violationJson lookup)))]

/-- Two blanks a level. -/
def layout : Json.Layout := .lines 2

/-- Violations as JSON text with sorted keys. -/
def violationsJson (violations : List Constraint) (lookup : Option Lookup) : String :=
  (Json.Value.record (violationFields violations lookup)).sorted.print layout

/-- The conversions of a ledger as JSON text with sorted keys. -/
def ledgerJson (ledger : Ledger) : String :=
  (Json.Value.record [("conversion_count", .number ledger.total),
    ("conversions", ledger.json)]).sorted.print layout

/-- The forms of a report. -/
inductive Format where
  | text
  | json
  deriving DecidableEq, Repr

/-- The word for a form on the command line. -/
def Format.label : Format → String
  | .text => "text"
  | .json => "json"

def Format.ofLabel? (label : String) : Option Format :=
  [Format.text, .json].find? (·.label == label)

/-- The JSON record of an extraction. -/
def document (extraction : Extraction) (lookup : Option Lookup) : Json.Value :=
  .record (violationFields extraction.violations lookup ++
    [("conversions", extraction.ledger.json),
      ("constraints_checked", .number extraction.checked)])

/-- The report on an extraction, as it is where its positions can be written. -/
def print (extraction : Extraction) (format : Format) (lookup : Option Lookup) : String :=
  match format with
  | .json => (document extraction lookup).sorted.print layout ++ "\n"
  | .text =>
    violationsText extraction.violations lookup ++ toString extraction.ledger.total ++
      " conversion(s) recorded.\n"

/-- Whether the positions of violations can be written in a form. Position zero is not written as
text. -/
def canWrite (violations : List Constraint) (lookup : Option Lookup) : Format → Bool
  | .text => violations.all fun violation => violation.isSynthetic || violation.isWritable
  | .json => (Json.Value.list (violations.map (violationJson lookup))).isWritable

/-- Violations in a form, unless one of their positions has too many digits. -/
def writeViolations (violations : List Constraint) (lookup : Option Lookup) (format : Format) :
    Except Text.TooManyDigits String :=
  Text.whenWritable (canWrite violations lookup format) (match format with
    | .text => violationsText violations lookup
    | .json => violationsJson violations lookup)

/-- The conversions of a ledger, unless one of their positions has too many digits. -/
def writeLedger (ledger : Ledger) : Except Text.TooManyDigits String :=
  Text.whenWritable ledger.json.isWritable (ledgerJson ledger)

/-- The report on an extraction, unless a position in it has too many digits. As text it counts the
conversions, as JSON it lists them. -/
def write (extraction : Extraction) (format : Format) (lookup : Option Lookup) :
    Except Text.TooManyDigits String :=
  Text.whenWritable
    (canWrite extraction.violations lookup format &&
      (format = .text || extraction.ledger.json.isWritable))
    (print extraction format lookup)

end Report
end SchemeTyping
