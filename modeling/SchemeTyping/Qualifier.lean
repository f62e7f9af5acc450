/-! Qualifiers: the schemes a value may be held in. A qualifier is known by its short name; the
qualified spelling is for display. -/
namespace SchemeTyping

/-- One qualifier. -/
structure Qualifier where
  name : String
  qualified : String := ""
  named : name ≠ ""
  deriving DecidableEq, Repr

namespace Qualifier

/-- A qualifier with a short and a qualified name; a short name is required. -/
def make? (name qualified : String) : Option Qualifier :=
  if named : name ≠ "" then some ⟨name, qualified, named⟩ else none

/-- Two spellings of one qualifier: the short name alone decides. -/
def Agrees (first second : Qualifier) : Prop := first.name = second.name

instance (first second : Qualifier) : Decidable (first.Agrees second) :=
  inferInstanceAs (Decidable (first.name = second.name))

/-- The form in which an unranked qualifier is named. -/
def toText (qualifier : Qualifier) : String := "QualifierTag(" ++ qualifier.name ++ ")"

end Qualifier

/-- A set of qualifiers in the order in which they were first put in; the first spelling of each
stays. -/
structure Candidates where
  members : List Qualifier := []
  distinct : (members.map Qualifier.name).Nodup := by decide
  deriving DecidableEq, Repr

namespace Candidates

def empty : Candidates := {}

/-- Add a qualifier unless one of its name is there. -/
def insert (candidates : Candidates) (qualifier : Qualifier) : Candidates :=
  if known : qualifier.name ∈ candidates.members.map Qualifier.name then candidates
  else
    { members := candidates.members ++ [qualifier]
      distinct := by
        rw [List.map_append, List.map_cons, List.map_nil]
        exact List.nodup_append.mpr ⟨candidates.distinct, by simp, by
          intro name present other single
          simp only [List.mem_singleton] at single
          subst single
          exact fun same => known (same ▸ present)⟩ }

def insertAll (candidates : Candidates) (qualifiers : List Qualifier) : Candidates :=
  qualifiers.foldl insert candidates

def ofList (qualifiers : List Qualifier) : Candidates := empty.insertAll qualifiers

/-- The set of one qualifier. -/
def single (qualifier : Qualifier) : Candidates := ⟨[qualifier], by simp⟩

/-- The short names in code-point order. -/
def sortedNames (candidates : Candidates) : List String :=
  (candidates.members.map Qualifier.name).mergeSort fun first second => decide (first ≤ second)

end Candidates
end SchemeTyping
