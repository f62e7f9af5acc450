import SchemeTyping.Extraction.Setting

/-! Maximal assignment: every reference with candidates is resolved to the most preferred one. -/
namespace SchemeTyping
namespace Hierarchy

/-- Resolve one reference. Without candidates it stays as it is. -/
def assign (hierarchy : Hierarchy) (typing : Typing) (reference : Reference) :
    Except Failure Typing :=
  match hierarchy.maximal (typing.profile reference).candidates.members with
  | .error fault => .error (.unranked fault)
  | .ok none => .ok typing
  | .ok (some qualifier) =>
    (typing.resolve reference.entity qualifier).mapError Failure.conflict

/-- Resolve references in order. At the first failure the typing stays as it is by then. -/
def assignAll (hierarchy : Hierarchy) : Typing → List Reference → Typing × Option Failure
  | typing, [] => (typing, none)
  | typing, reference :: rest =>
    match hierarchy.assign typing reference with
    | .error failure => (typing, some failure)
    | .ok typing => hierarchy.assignAll typing rest

end Hierarchy
end SchemeTyping
