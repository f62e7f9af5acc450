import SchemeTyping.Qualifier

/-! Qualifier hierarchies: a ranking, direct subtype edges between ranked qualifiers, and a baseline
among them. The ranking says which qualifier is preferred; the edges say which subsumes which. -/
namespace SchemeTyping

/-- A direct edge: the lower qualifier is a subtype of the upper one. -/
structure Edge where
  lower : String
  upper : String
  deriving DecidableEq, Repr

/-- A ranking from the most preferred qualifier down, edges between ranked names, a ranked
baseline. Nothing relates the ranking to the edges, which may form cycles. -/
structure Hierarchy where
  order : List Qualifier
  edges : List Edge
  baseline : Qualifier
  distinct : (order.map Qualifier.name).Nodup
  ranked : ∀ edge ∈ edges, edge.lower ∈ order.map Qualifier.name ∧
    edge.upper ∈ order.map Qualifier.name
  based : baseline ∈ order

namespace Hierarchy

/-- What can be wrong with a hierarchy or with a name looked up in it. -/
inductive Fault where
  | empty
  | unnamed
  | rankedTwice (name : String)
  | unknown (name : String)
  | baseless
  deriving DecidableEq, Repr

def Fault.message : Fault → String
  | .empty => "hierarchy needs at least one qualifier"
  | .unnamed => "qualifier short name must be non-empty"
  | .rankedTwice name => "qualifier " ++ name ++ " ranked more than once"
  | .unknown name => "unknown qualifier " ++ name
  | .baseless => "hierarchy needs a baseline qualifier"

/-- What a hierarchy is built from: short and qualified names in order, edges and a baseline by
name. -/
structure Draft where
  order : List (String × String) := []
  edges : List Edge := []
  baseline : Option String := none
  deriving DecidableEq, Repr

/-- Rank the names one after the other below those already ranked. -/
def rankAll : (ranked : { order : List Qualifier // (order.map Qualifier.name).Nodup }) →
    List (String × String) →
    Except Fault { order : List Qualifier // (order.map Qualifier.name).Nodup }
  | ranked, [] => .ok ranked
  | ⟨order, distinct⟩, (name, qualified) :: rest =>
    match made : Qualifier.make? name qualified with
    | none => .error .unnamed
    | some qualifier =>
      if known : qualifier.name ∈ order.map Qualifier.name then .error (.rankedTwice name)
      else
        rankAll ⟨order ++ [qualifier], by
          rw [List.map_append, List.map_cons, List.map_nil]
          exact List.nodup_append.mpr ⟨distinct, by simp, by
            intro other present last single
            simp only [List.mem_singleton] at single
            subst single
            exact fun same => known (same ▸ present)⟩⟩ rest

/-- Keep edges between ranked names; the first name that is not ranked is at fault. -/
def bindEdges (names : List String) : List Edge →
    Except Fault { edges : List Edge // ∀ edge ∈ edges, edge.lower ∈ names ∧ edge.upper ∈ names }
  | [] => .ok ⟨[], by simp⟩
  | edge :: rest =>
    if lower : edge.lower ∈ names then
      if upper : edge.upper ∈ names then
        (bindEdges names rest).map fun ⟨edges, bound⟩ =>
          ⟨edge :: edges, by
            intro other member
            rcases List.mem_cons.mp member with same | later
            · exact same ▸ ⟨lower, upper⟩
            · exact bound other later⟩
      else .error (.unknown edge.upper)
    else .error (.unknown edge.lower)

/-- Build a hierarchy. The order is examined first, then the edges, then the baseline. -/
def build (draft : Draft) : Except Fault Hierarchy :=
  if draft.order = [] then .error .empty
  else
    match rankAll ⟨[], List.nodup_nil⟩ draft.order with
    | .error fault => .error fault
    | .ok ⟨order, distinct⟩ =>
      match bindEdges (order.map Qualifier.name) draft.edges with
      | .error fault => .error fault
      | .ok ⟨edges, ranked⟩ =>
        match draft.baseline with
        | none => .error .baseless
        | some name =>
          match found : order.find? (·.name == name) with
          | none => .error (.unknown name)
          | some baseline =>
            .ok ⟨order, edges, baseline, distinct, ranked, List.mem_of_find?_eq_some found⟩

/-- The ranked qualifier of a name. -/
def find? (hierarchy : Hierarchy) (name : String) : Option Qualifier :=
  hierarchy.order.find? (·.name == name)

/-- The ranked qualifier of a name, or the fault that the name is unknown. -/
def get (hierarchy : Hierarchy) (name : String) : Except Fault Qualifier :=
  match hierarchy.find? name with
  | some qualifier => .ok qualifier
  | none => .error (.unknown name)

def names (hierarchy : Hierarchy) : List String := hierarchy.order.map Qualifier.name

def contains (hierarchy : Hierarchy) (name : String) : Bool := (hierarchy.find? name).isSome

/-- The hierarchy as statements: the order, each edge, the baseline. -/
def describe (hierarchy : Hierarchy) : List String :=
  ("order: " ++ ", ".intercalate hierarchy.names) ::
    (hierarchy.edges.map fun edge => "subtype: " ++ edge.lower ++ " <: " ++ edge.upper) ++
    ["baseline: " ++ hierarchy.baseline.name]

/-- The hierarchy in one line, without its edges. -/
def toText (hierarchy : Hierarchy) : String :=
  "QualifierHierarchy([" ++ ", ".intercalate hierarchy.names ++ "], baseline=" ++
    hierarchy.baseline.name ++ ")"

end Hierarchy
end SchemeTyping
