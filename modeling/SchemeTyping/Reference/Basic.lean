import SchemeTyping.Qualifier

/-! References: the program entities that carry qualifiers. What never changes about a reference
(which entity it is, its kind, its element) is kept apart from its profile, which typing changes. -/
namespace SchemeTyping

/-- A modelled program entity. The serial number tells entities apart that share an identifier. -/
structure Entity where
  serial : Nat
  identifier : String
  deriving DecidableEq, Repr

/-- The variants of references. -/
inductive Flavour where
  | variable
  | parameter
  | equalNull
  | adapt
  | methodAdapt
  | other
  deriving DecidableEq, Repr

namespace Flavour

def all : List Flavour := [.variable, .parameter, .equalNull, .adapt, .methodAdapt, .other]

/-- The word for a flavour in unit files. -/
def label : Flavour → String
  | .variable => "variable"
  | .parameter => "parameter"
  | .equalNull => "equal_null"
  | .adapt => "adapt"
  | .methodAdapt => "method_adapt"
  | .other => "other"

/-- The name of a flavour in messages. -/
def title : Flavour → String
  | .variable => "VARIABLE"
  | .parameter => "PARAMETER"
  | .equalNull => "EQUAL_NULL"
  | .adapt => "ADAPT"
  | .methodAdapt => "METHOD_ADAPT"
  | .other => "OTHER"

def ofLabel? (label : String) : Option Flavour := all.find? (·.label == label)

end Flavour

/-- The kind of a reference. The two adapted kinds view a declaration from where it is used. -/
inductive Kind (Declaration : Type) where
  | variable
  | parameter
  | equalNull
  | adapt (declaration : Declaration)
  | methodAdapt (declaration : Declaration)
  | other
  deriving DecidableEq, Repr

namespace Kind
variable {Declaration : Type}

def flavour : Kind Declaration → Flavour
  | .variable => .variable
  | .parameter => .parameter
  | .equalNull => .equalNull
  | .adapt _ => .adapt
  | .methodAdapt _ => .methodAdapt
  | .other => .other

/-- The declaration that an adapted reference views. -/
def declaration? : Kind Declaration → Option Declaration
  | .adapt declaration => some declaration
  | .methodAdapt declaration => some declaration
  | _ => none

def isAdapted (kind : Kind Declaration) : Bool := kind.declaration?.isSome

/-- Variables and parameters declare program elements. -/
def isDeclaration (kind : Kind Declaration) : Bool :=
  kind.flavour == .variable || kind.flavour == .parameter

/-- The same kind over the declaration that another one stands for. -/
def bind {Found Fault : Type} (find : Declaration → Except Fault Found) :
    Kind Declaration → Except Fault (Kind Found)
  | .variable => .ok .variable
  | .parameter => .ok .parameter
  | .equalNull => .ok .equalNull
  | .adapt declaration => (find declaration).map .adapt
  | .methodAdapt declaration => (find declaration).map .methodAdapt
  | .other => .ok .other

/-- Why a flavour and a declaration make no kind: adapted kinds view a declaration, the others do
not. -/
inductive Fault where
  | declarationMissing (flavour : Flavour) (identifier : String)
  | declarationUnexpected (flavour : Flavour)
  deriving DecidableEq, Repr

def Fault.message : Fault → String
  | .declarationMissing flavour identifier =>
    flavour.title ++ " reference '" ++ identifier ++ "' needs a decl"
  | .declarationUnexpected flavour =>
    "only adapt references carry a decl, got " ++ flavour.title

/-- The kind of a flavour, for a reference of an identifier. -/
def make (identifier : String) : Flavour → Option Declaration → Except Fault (Kind Declaration)
  | .adapt, some declaration => .ok (.adapt declaration)
  | .methodAdapt, some declaration => .ok (.methodAdapt declaration)
  | .adapt, none => .error (.declarationMissing .adapt identifier)
  | .methodAdapt, none => .error (.declarationMissing .methodAdapt identifier)
  | .variable, none => .ok .variable
  | .parameter, none => .ok .parameter
  | .equalNull, none => .ok .equalNull
  | .other, none => .ok .other
  | flavour, some _ => .error (.declarationUnexpected flavour)

end Kind

/-- What never changes about a reference. -/
structure Reference where
  entity : Entity
  kind : Kind Entity
  element : Option String
  deriving DecidableEq, Repr

namespace Reference

def identifier (reference : Reference) : String := reference.entity.identifier

/-- The element that a declaration owns in a store. -/
def declaredElement? (reference : Reference) : Option String :=
  if reference.kind.isDeclaration then reference.element else none

end Reference

/-- What typing changes about a reference: the name shown, the scheme named explicitly, the
candidates and the qualifier to which they were resolved. -/
structure Profile where
  name : String := ""
  explicit : Option Qualifier := none
  candidates : Candidates := Candidates.empty
  resolved : Option Qualifier := none
  deriving DecidableEq, Repr

namespace Profile

/-- The explicit scheme if there is one, otherwise the resolved qualifier. -/
def effective (profile : Profile) : Option Qualifier := profile.explicit.or profile.resolved

def isResolved (profile : Profile) : Bool := profile.resolved.isSome

end Profile

/-- A reference; declarations own the element of their identifier unless another is given. -/
def Reference.make (serial : Nat) (identifier : String) (kind : Kind Entity)
    (element : Option String) : Reference :=
  ⟨⟨serial, identifier⟩, kind,
    element.or (if kind.isDeclaration then some identifier else none)⟩

/-- The profile a reference starts with; it is shown by its identifier unless a name is given. -/
def Profile.initial (identifier name : String) (candidates : List Qualifier)
    (explicit : Option Qualifier) : Profile where
  name := if name = "" then identifier else name
  explicit := explicit
  candidates := Candidates.ofList candidates

end SchemeTyping
