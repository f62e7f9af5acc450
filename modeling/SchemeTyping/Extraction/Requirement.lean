import SchemeTyping.Conversion.Basic
import SchemeTyping.Extraction.Setting

/-! The conversion rule: which change of scheme a constraint requires and which reference it is
attributed to. -/
namespace SchemeTyping

/-- A required conversion and the identifier it is attributed to. -/
structure Requirement where
  attributed : String
  conversion : Conversion
  deriving DecidableEq, Repr

namespace Setting

def effective (setting : Setting) (reference : Reference) : Option Qualifier :=
  (setting.profile reference).effective

def isResolved (setting : Setting) (reference : Reference) : Bool :=
  (setting.profile reference).isResolved

/-- Constraints without a position and null marks never require a conversion. -/
def isExempt (constraint : Constraint) (left right : Reference) : Bool :=
  constraint.isSynthetic || left.kind = .equalNull || right.kind = .equalNull

/-- The left end holds the baseline and the right end is resolved and no adapted method; then the
left end need not be resolved. -/
def startsAtBaseline (setting : Setting) (left right : Reference) : Bool :=
  (match setting.effective left with
    | some scheme => decide (scheme.Agrees setting.hierarchy.baseline)
    | none => false) &&
  right.kind.flavour != .methodAdapt && setting.isResolved right

/-- A parameter, or a reference to an element that a parameter owns. Baseline values are passed to
it as they are. -/
def standsForParameter (setting : Setting) (reference : Reference) : Bool :=
  reference.kind = .parameter ||
    match setting.store.declarationOf? reference with
    | some declaration => declaration.kind = .parameter
    | none => false

/-- The change between two schemes at the position of a constraint, if they differ. -/
def change? (constraint : Constraint) (source target : Option Qualifier) : Option Conversion :=
  match source, target with
  | some source, some target =>
    if source.Agrees target then none
    else some ⟨constraint.position, source.name, target.name, constraint.spelling⟩
  | _, _ => none

/-- What a constraint between two references requires. A conversion belongs to the left end, or to
the right end when the left one is an adapted view. -/
def requirementOn (setting : Setting) (constraint : Constraint) (left right : Reference) :
    Option Requirement :=
  let required (attributed : String) : Option Requirement :=
    (change? constraint (setting.effective left) (setting.effective right)).map
      fun conversion => ⟨attributed, conversion⟩
  if isExempt constraint left right then none
  else if setting.startsAtBaseline left right then
    if setting.standsForParameter right then none else required left.identifier
  else if setting.isResolved left && setting.isResolved right then
    required (if left.kind.isAdapted then right.identifier else left.identifier)
  else none

end Setting
end SchemeTyping
