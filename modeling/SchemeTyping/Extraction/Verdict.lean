import SchemeTyping.Extraction.Setting

/-! Verification of one constraint. -/
namespace SchemeTyping

/-- What checking a constraint finds. -/
inductive Verdict where
  | unresolved
  | satisfied
  | tolerated (lower upper : Qualifier)
  | violated
  deriving DecidableEq, Repr

namespace Verdict

def isViolation : Verdict → Bool
  | .violated => true
  | _ => false

end Verdict

namespace Setting

/-- The verdict on two resolved ends. -/
def judge (setting : Setting) (constraint : Constraint) (lower upper : Qualifier) :
    Except Failure Verdict :=
  match setting.hierarchy.isSubtype lower.name upper.name with
  | .error fault => .error (.hierarchy fault)
  | .ok true => .ok .satisfied
  | .ok false =>
    match setting.severity constraint with
    | .error => .ok .violated
    | .warning => .ok (.tolerated lower upper)

/-- The verdict on a constraint between two references; nothing is said before both are resolved. -/
def verdictOn (setting : Setting) (constraint : Constraint) (left right : Reference) :
    Except Failure Verdict :=
  match (setting.profile left).resolved, (setting.profile right).resolved with
  | some lower, some upper => setting.judge constraint lower upper
  | _, _ => .ok .unresolved

/-- The verdict on a constraint. -/
def verdict (setting : Setting) (constraint : Constraint) : Except Failure Verdict :=
  match setting.ends constraint with
  | .error failure => .error failure
  | .ok (left, right) => setting.verdictOn constraint left right

end Setting
end SchemeTyping
