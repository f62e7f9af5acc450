import SchemeTyping.Text.Numeral

/-! Subtype constraints between references. Position zero marks a synthetic constraint, which stands
nowhere in the program. Two constraints that agree are one, whatever the form of their position. -/
namespace SchemeTyping

/-- The left reference has to be a subtype of the right one at a position of the program. -/
structure Constraint where
  left : String
  right : String
  position : Nat := 0
  label : String := ""
  spelling : Text.Spelling := .digits
  deriving DecidableEq, Repr

namespace Constraint

/-- What a constraint is built from. -/
structure Draft where
  left : String
  right : String
  position : Int := 0
  label : String := ""
  spelling : Text.Spelling := .digits
  deriving DecidableEq, Repr

/-- A position before the start of the program. -/
structure NegativePosition where
  position : Int
  deriving DecidableEq, Repr

def NegativePosition.message (fault : NegativePosition) : String :=
  "constraint position must be >= 0, got " ++ toString fault.position

def ofDraft (draft : Draft) : Except NegativePosition Constraint :=
  if draft.position < 0 then .error ⟨draft.position⟩
  else .ok ⟨draft.left, draft.right, draft.position.toNat, draft.label, draft.spelling⟩

/-- The constraint with its position in digits. -/
def plain (constraint : Constraint) : Constraint := { constraint with spelling := .digits }

/-- Two forms of one constraint: all but the spelling decides. -/
def Agrees (first second : Constraint) : Prop := first.plain = second.plain

instance (first second : Constraint) : Decidable (first.Agrees second) :=
  inferInstanceAs (Decidable (first.plain = second.plain))

def isSynthetic (constraint : Constraint) : Bool := constraint.position == 0

/-- Whether the position can be written in the form in which it was given. -/
def isWritable (constraint : Constraint) : Bool := constraint.spelling.writes constraint.position

/-- The position in the form in which it was given, as it is where it can be written. -/
def positionText (constraint : Constraint) : String :=
  constraint.spelling.write constraint.position

/-- The constraint in one line; the label follows in brackets if there is one. -/
def toText (constraint : Constraint) : String :=
  constraint.left ++ " <: " ++ constraint.right ++ " @ " ++ constraint.positionText ++
    if constraint.label = "" then "" else " [" ++ constraint.label ++ "]"

end Constraint
end SchemeTyping
