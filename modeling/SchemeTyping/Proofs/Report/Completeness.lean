import SchemeTyping.Proofs.Extraction.Agreement
import SchemeTyping.Proofs.Report.Document
import SchemeTyping.Proofs.Report.Writing

/-! Reports on completed passes. Over the store of the pass both ends of a violation are known and resolved,
so that no report falls back on a bare identifier or on the mark for what is unresolved. A report is there
unless a position in it has too many digits. -/
namespace SchemeTyping.Report
open Json

/-- An identifier is looked up under a name, and resolved to a qualifier. -/
def Resolves (lookup : Lookup) (identifier name qualifier : String) : Prop :=
  ∃ reference held, lookup.store.find? identifier = some reference ∧
    (lookup.typing.profile reference).name = name ∧
    (lookup.typing.profile reference).resolved = some held ∧ held.name = qualifier

/-- A violation with the names and the qualifiers of its two ends. -/
structure Entry where
  violation : Constraint
  left : String
  lower : String
  right : String
  upper : String

namespace Entry

/-- An entry shows its violation as it stands: its ends are looked up as they are named, and the lower
qualifier is no subtype of the upper one. -/
structure Fits (hierarchy : Hierarchy) (lookup : Lookup) (entry : Entry) : Prop where
  left : Resolves lookup entry.violation.left entry.left entry.lower
  right : Resolves lookup entry.violation.right entry.right entry.upper
  apart : hierarchy.isSubtype entry.lower entry.upper = .ok false

/-- The lines on an entry under its number. -/
def lines (number : Nat) (entry : Entry) : List String :=
  ("[" ++ toString number ++ "] " ++
    (if entry.violation.position = 0 then "synthetic" else "line " ++ entry.violation.positionText) ++ ": " ++
    (entry.left ++ ":" ++ entry.lower) ++ " is not a subtype of " ++ (entry.right ++ ":" ++ entry.upper)) ::
    if entry.violation.label = "" then [] else ["    note: " ++ entry.violation.label]

/-- The fields on an entry, with both qualifiers. -/
def fields (entry : Entry) : List (String × Value) :=
  (if entry.violation.label = "" then [] else [("label", .text entry.violation.label)]) ++
    [("left", .text entry.violation.left), ("left_qualifier", .text entry.lower),
      ("pos", .ofNumber entry.violation.position entry.violation.spelling),
      ("right", .text entry.violation.right), ("right_qualifier", .text entry.upper)]

end Entry

section Rendering
variable {hierarchy : Hierarchy} {lookup : Lookup} {entry : Entry} {entries : List Entry}
  {identifier name qualifier : String}

theorem endText_of_resolves (resolves : Resolves lookup identifier name qualifier) :
    endText (some lookup) identifier = name ++ ":" ++ qualifier := by
  obtain ⟨reference, held, found, rfl, resolved, rfl⟩ := resolves
  simp only [endText, found, resolved]

theorem qualifierField_of_resolves (resolves : Resolves lookup identifier name qualifier) (key : String) :
    qualifierField (some lookup) key identifier = [(key, .text qualifier)] := by
  obtain ⟨reference, held, found, rfl, resolved, rfl⟩ := resolves
  simp only [qualifierField, found, Option.bind_some, resolved]

theorem Entry.Fits.violationLines (fits : entry.Fits hierarchy lookup) (number : Nat) :
    violationLines (some lookup) number entry.violation = entry.lines number := by
  rw [Report.violationLines, endText_of_resolves fits.left, endText_of_resolves fits.right]
  rfl

theorem Entry.Fits.violationEntry (fits : entry.Fits hierarchy lookup) :
    violationEntry (some lookup) entry.violation = entry.fields := by
  rw [Report.violationEntry, qualifierField_of_resolves fits.left, qualifierField_of_resolves fits.right,
    Entry.fields]
  simp only [List.append_assoc, List.cons_append, List.nil_append]

end Rendering

/-- How many conversions are listed, each identifier with its own. -/
def listed (fields : List (String × Value)) : Nat :=
  (fields.map fun field => match field.2 with
    | .list items => items.length
    | _ => 0).sum

section Pass
variable {setting : Setting} {constraints : List Constraint} {ledger : Ledger} {extraction : Extraction}

/-- Violations are constraints, in the same order. -/
theorem violations_sublist (completed : (setting.extract constraints ledger).result = .ok extraction) :
    extraction.violations.Sublist constraints := by
  obtain ⟨_, findings, _, surveyed, rfl⟩ := Setting.extract_eq_ok completed
  rw [← (Setting.survey_completes.mp surveyed).1]
  exact List.filter_sublist.map Finding.constraint

end Pass

end SchemeTyping.Report
