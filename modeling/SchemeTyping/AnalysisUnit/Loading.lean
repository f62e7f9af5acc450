import SchemeTyping.AnalysisUnit.Binding
import SchemeTyping.Extraction.Pass
import SchemeTyping.Text.Quoted

/-! Loading analysis units from text, and running them. -/
namespace SchemeTyping

/-- A loaded unit: all that an extraction pass needs. -/
structure AnalysisUnit where
  store : Store
  typing : Typing
  constraints : List Constraint
  hierarchy : Hierarchy
  policy : Policy
  source : String

namespace AnalysisUnit

def setting (unit : AnalysisUnit) : Setting where
  store := unit.store
  typing := unit.typing
  hierarchy := unit.hierarchy
  severity := unit.policy.status

/-- Run the pass over a unit with a ledger of its own. -/
def run (unit : AnalysisUnit) : Pass := unit.setting.extract unit.constraints Ledger.empty

/-- The unit as a pass leaves it. -/
def after (unit : AnalysisUnit) (pass : Pass) : AnalysisUnit := { unit with typing := pass.typing }

/-- Successive passes over one unit, and the unit after the last. -/
def runTimes (unit : AnalysisUnit) : Nat → List Pass × AnalysisUnit
  | 0 => ([], unit)
  | times + 1 =>
    let pass := unit.run
    let (later, last) := (unit.after pass).runTimes times
    (pass :: later, last)

/-- Why a text is no unit: input that no item begins with, a position with too many digits, or
declarations that cannot be bound. -/
inductive LoadFault where
  | unexpected (got : List Char) (span : Span)
  | numeralTooLong
  | unbound (fault : BindingFault) (span : Span)
  deriving DecidableEq, Repr

/-- The diagnostic on a fault. Positions with too many digits have none. -/
def LoadFault.diagnostic? : LoadFault → Option Diagnostic
  | .unexpected got span =>
    some ⟨.text (String.ofList got), "unexpected input " ++ Text.quoted got, .incompleteParse, span,
      ""⟩
  | .numeralTooLong => none
  | .unbound fault span => some ⟨.meaning, fault.message, fault.code, span, fault.hint⟩

/-- How much of unexpected input a diagnostic shows. -/
def excerptLength : Nat := 20

def ParseFault.locate (text : List Char) (source : String) : ParseFault → LoadFault
  | .unexpected offset =>
    .unexpected ((text.drop offset).take excerptLength) (Span.ofOffset text offset source)
  | .numeralTooLong => .numeralTooLong

/-- The declarations of a text, or the fault with its place. -/
def declarations (text : List Char) (source : String) : Except LoadFault (List Declaration) :=
  (parse text).mapError (ParseFault.locate text source)

/-- What loading yields, and what is told about it. -/
structure Loading where
  journal : List Entry
  result : Except LoadFault AnalysisUnit

/-- Each reference of a store is told of when it is added. -/
def registrations (bound : Bound) : List Entry :=
  bound.store.references.map fun reference =>
    ⟨.debug, Channel.references, "Registered " ++ bound.typing.describe reference⟩

/-- The unit that declarations make up. -/
def assemble (declarations : List Declaration) (text : List Char) (source : String) : Loading :=
  let refuse (located : Located) : Except LoadFault AnalysisUnit :=
    .error (.unbound located.fault (Span.ofOffset text located.offset source))
  match bindHierarchy declarations with
  | .error located => ⟨[], refuse located⟩
  | .ok hierarchy =>
    match Bound.addAll hierarchy {} declarations with
    | (bound, some located) => ⟨registrations bound, refuse located⟩
    | (bound, none) =>
      ⟨registrations bound ++ [⟨.info, Channel.loading,
          "Loaded " ++ source ++ ": " ++ toString bound.store.size ++ " reference(s), " ++
            toString bound.constraints.length ++ " constraint(s)"⟩],
        .ok ⟨bound.store, bound.typing, bound.constraints, hierarchy, bound.policy, source⟩⟩

/-- Load a unit from text. -/
def load (text : List Char) (source : String) : Loading :=
  match declarations text source with
  | .error fault => ⟨[], .error fault⟩
  | .ok declarations => assemble declarations text source

end AnalysisUnit
end SchemeTyping
