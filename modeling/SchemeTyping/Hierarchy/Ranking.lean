import SchemeTyping.Hierarchy.Basic
import SchemeTyping.Hierarchy.Runs

/-! The ranking as an order: earlier in the order is preferred. Only two or more qualifiers are ever
compared, so one alone need not be ranked. -/
namespace SchemeTyping

/-- A qualifier was compared that the hierarchy does not rank. -/
structure Unranked where
  qualifier : Qualifier
  deriving DecidableEq, Repr

def Unranked.message (fault : Unranked) : String := fault.qualifier.toText

namespace Hierarchy

/-- The position of a name in the order. -/
def rank? (hierarchy : Hierarchy) (name : String) : Option Nat := hierarchy.names.idxOf? name

def isRanked (hierarchy : Hierarchy) (qualifier : Qualifier) : Bool :=
  (hierarchy.rank? qualifier.name).isSome

/-- The rank of a qualifier. -/
def rankOf (hierarchy : Hierarchy) (qualifier : Qualifier) : Except Unranked Nat :=
  match hierarchy.rank? qualifier.name with
  | some rank => .ok rank
  | none => .error ⟨qualifier⟩

/-- The difference of two ranks; the first qualifier is looked up first. -/
def compare (hierarchy : Hierarchy) (first second : Qualifier) : Except Unranked Int :=
  match hierarchy.rankOf first with
  | .error fault => .error fault
  | .ok firstRank =>
    match hierarchy.rankOf second with
    | .error fault => .error fault
    | .ok secondRank => .ok (Int.ofNat firstRank - Int.ofNat secondRank)

/-- The rank of a qualifier, or zero without one. -/
def rankOrZero (hierarchy : Hierarchy) (qualifier : Qualifier) : Nat :=
  (hierarchy.rank? qualifier.name).getD 0

/-- The first qualifier without a rank that a sort comes upon. What stands behind it does not matter,
so it may count as rank zero. -/
def unranked? (hierarchy : Hierarchy) (qualifiers : List Qualifier) : Option Qualifier :=
  (Runs.readOrder hierarchy.rankOrZero qualifiers).find? fun qualifier =>
    !hierarchy.isRanked qualifier

/-- The qualifiers by rank; equal ones keep their order. -/
def sort (hierarchy : Hierarchy) (qualifiers : List Qualifier) :
    Except Unranked (List Qualifier) :=
  match hierarchy.unranked? qualifiers with
  | some qualifier => .error ⟨qualifier⟩
  | none =>
    .ok (qualifiers.mergeSort fun first second =>
      decide (hierarchy.rankOrZero first ≤ hierarchy.rankOrZero second))

/-- The most preferred of some qualifiers. -/
def maximal (hierarchy : Hierarchy) (qualifiers : List Qualifier) :
    Except Unranked (Option Qualifier) :=
  (hierarchy.sort qualifiers).map List.head?

end Hierarchy
end SchemeTyping
