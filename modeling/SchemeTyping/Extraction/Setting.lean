import SchemeTyping.Constraint.Policy
import SchemeTyping.Hierarchy.Ranking
import SchemeTyping.Hierarchy.Subtype
import SchemeTyping.Reference.Store
import SchemeTyping.Reference.Typing

/-! What an extraction pass reads, and the ways in which it can fail. -/
namespace SchemeTyping

/-- What constraints are checked against. Any policy may say how a violated constraint counts. -/
structure Setting where
  store : Store
  typing : Typing
  hierarchy : Hierarchy
  severity : Constraint → Severity

/-- Why an extraction pass ends early. -/
inductive Failure where
  | unknownReference (fault : UnknownReference)
  | hierarchy (fault : Hierarchy.Fault)
  | unranked (fault : Unranked)
  | conflict (clash : ResolutionConflict)
  deriving DecidableEq, Repr

def Failure.message : Failure → String
  | .unknownReference fault => fault.message
  | .hierarchy fault => fault.message
  | .unranked fault => fault.message
  | .conflict clash => clash.message

namespace Setting

def profile (setting : Setting) (reference : Reference) : Profile :=
  setting.typing.profile reference

def reference (setting : Setting) (identifier : String) : Except Failure Reference :=
  (setting.store.get identifier).mapError Failure.unknownReference

/-- The two references of a constraint; the left one is looked up first. -/
def ends (setting : Setting) (constraint : Constraint) :
    Except Failure (Reference × Reference) :=
  match setting.reference constraint.left with
  | .error failure => .error failure
  | .ok left =>
    match setting.reference constraint.right with
    | .error failure => .error failure
    | .ok right => .ok (left, right)

end Setting
end SchemeTyping
