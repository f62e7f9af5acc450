import SchemeTyping.Extraction.Assignment
import SchemeTyping.Extraction.Progress

/-! The whole pass: maximal assignment over the store, then every constraint once. -/
namespace SchemeTyping

/-- What a completed pass yields. -/
structure Extraction where
  violations : List Constraint
  ledger : Ledger
  diagnostics : List String
  considered : Nat
  checked : Nat
  deriving DecidableEq

namespace Extraction

def isOk (extraction : Extraction) : Bool := extraction.violations.isEmpty

def errorCount (extraction : Extraction) : Nat := extraction.violations.length

end Extraction

/-- What a pass leaves behind, completed or not: the typing, the ledger, the journal and the text that
was written out as they are by then, and the result or the failure. -/
structure Pass where
  typing : Typing
  ledger : Ledger
  journal : List Entry
  written : String
  result : Except Failure Extraction

/-- Lines as text, each with its line end. -/
def linesText (lines : List String) : String := String.join (lines.map (· ++ "\n"))

/-- Run the pass over a setting with a ledger that may hold earlier conversions. -/
def Setting.extract (setting : Setting) (constraints : List Constraint) (ledger : Ledger) : Pass :=
  let considered := setting.store.size
  let started := ({ ledger } : Progress).tell .info
    ("Picking up the maximal qualifier for " ++ toString considered ++ " variables...")
  match setting.hierarchy.assignAll setting.typing setting.store.references with
  | (typing, some failure) => ⟨typing, ledger, started.journal, started.written, .error failure⟩
  | (typing, none) =>
    match { setting with typing }.check started constraints with
    | (progress, some failure) =>
      ⟨typing, progress.ledger, progress.journal, progress.written, .error failure⟩
    | (progress, none) =>
      ⟨typing, progress.ledger, progress.journal, progress.written,
        .ok ⟨progress.violations, progress.ledger, progress.diagnostics, considered,
          constraints.length⟩⟩

end SchemeTyping
