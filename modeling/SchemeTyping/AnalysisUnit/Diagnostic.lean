import SchemeTyping.Text.Span

/-! Diagnostics: messages about unit files with a code, a place and perhaps a hint. -/
namespace SchemeTyping.AnalysisUnit

/-- What a diagnostic is about. -/
inductive Code where
  | unexpectedInput
  | incompleteParse
  | duplicateHierarchy
  | missingOrder
  | missingBaseline
  | invalidHierarchy
  | unknownQualifier
  | unknownReference
  | duplicateReference
  | duplicateOption
  | unreadableUnit
  | internalError
  deriving DecidableEq, Repr

namespace Code

def all : List Code := [
  .unexpectedInput, .incompleteParse, .duplicateHierarchy, .missingOrder, .missingBaseline,
  .invalidHierarchy, .unknownQualifier, .unknownReference, .duplicateReference, .duplicateOption,
  .unreadableUnit, .internalError]

/-- Text faults from 1000 on, hierarchies from 2000, references from 3000, files from 4000. -/
def number : Code → Nat
  | .unexpectedInput => 1001
  | .incompleteParse => 1002
  | .duplicateHierarchy => 2001
  | .missingOrder => 2002
  | .missingBaseline => 2003
  | .invalidHierarchy => 2004
  | .unknownQualifier => 2005
  | .unknownReference => 3001
  | .duplicateReference => 3002
  | .duplicateOption => 3003
  | .unreadableUnit => 4001
  | .internalError => 9001

/-- The name of a code. -/
def name : Code → String
  | .unexpectedInput => "UNEXPECTED_INPUT"
  | .incompleteParse => "INCOMPLETE_PARSE"
  | .duplicateHierarchy => "DUPLICATE_HIERARCHY"
  | .missingOrder => "MISSING_ORDER"
  | .missingBaseline => "MISSING_BASELINE"
  | .invalidHierarchy => "INVALID_HIERARCHY"
  | .unknownQualifier => "UNKNOWN_QUALIFIER"
  | .unknownReference => "UNKNOWN_REFERENCE"
  | .duplicateReference => "DUPLICATE_REFERENCE"
  | .duplicateOption => "DUPLICATE_OPTION"
  | .unreadableUnit => "UNREADABLE_UNIT"
  | .internalError => "INTERNAL_ERROR"

def ofName? (name : String) : Option Code := all.find? (·.name == name)

/-- The code as diagnostics show it. -/
def toText (code : Code) : String := "CTSL-" ++ toString code.number

end Code

/-- The families of diagnostics. One about the text of a unit keeps what was found there. -/
inductive Family where
  | general
  | text (got : String)
  | meaning
  | file
  deriving DecidableEq, Repr

/-- The code of a family's diagnostics unless they name another. -/
def Family.defaultCode : Family → Code
  | .general => .internalError
  | .text _ => .unexpectedInput
  | .meaning => .unknownReference
  | .file => .unreadableUnit

/-- A diagnostic on a unit file. -/
structure Diagnostic where
  family : Family
  message : String
  code : Code
  span : Span := {}
  hint : String := ""
  deriving DecidableEq, Repr

/-- The place, the message and the code, and the hint on a line of its own. -/
def Diagnostic.toText (diagnostic : Diagnostic) : String :=
  diagnostic.span.toText ++ ": error: " ++ diagnostic.message ++ " [" ++ diagnostic.code.toText ++
    "]" ++ if diagnostic.hint = "" then "" else "\n  hint: " ++ diagnostic.hint

end SchemeTyping.AnalysisUnit
