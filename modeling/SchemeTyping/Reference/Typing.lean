import SchemeTyping.Reference.Basic
import SchemeTyping.Table

/-! Typings: the current profile of every entity. Stores list references and share one typing, so
that a change shows wherever a reference is listed. -/
namespace SchemeTyping

/-- The profiles of the modelled entities. -/
structure Typing where
  profiles : Table Entity Profile := Table.empty
  deriving DecidableEq

/-- A resolved reference was asked to take another qualifier. -/
structure ResolutionConflict where
  identifier : String
  held : Qualifier
  asked : Qualifier
  deriving DecidableEq, Repr

def ResolutionConflict.message (conflict : ResolutionConflict) : String :=
  "reference '" ++ conflict.identifier ++ "' already resolved to " ++ conflict.held.name ++
    ", cannot re-resolve to " ++ conflict.asked.name

namespace Typing

def empty : Typing := {}

/-- The profile of an entity. -/
def get (typing : Typing) (entity : Entity) : Profile := (typing.profiles.find? entity).getD {}

def put (typing : Typing) (entity : Entity) (profile : Profile) : Typing :=
  ⟨typing.profiles.put entity profile⟩

/-- The profile of a reference. -/
def profile (typing : Typing) (reference : Reference) : Profile := typing.get reference.entity

/-- The name shown in diagnostics; an adapted reference is shown by the declaration's name. -/
def displayName (typing : Typing) (reference : Reference) : String :=
  (typing.get (reference.kind.declaration?.getD reference.entity)).name

/-- A reference with its kind and candidates. -/
def describe (typing : Typing) (reference : Reference) : String :=
  "Reference(" ++ reference.identifier ++ ", " ++ reference.kind.flavour.title ++ ", \x7b" ++
    ", ".intercalate (typing.profile reference).candidates.sortedNames ++ "\x7d)"

/-- Collapse the candidates of an entity to one qualifier. Once resolved, an entity takes no other
qualifier. -/
def resolve (typing : Typing) (entity : Entity) (qualifier : Qualifier) :
    Except ResolutionConflict Typing :=
  let profile := typing.get entity
  let settled := typing.put entity
    { profile with resolved := some qualifier, candidates := Candidates.single qualifier }
  match profile.resolved with
  | none => .ok settled
  | some held =>
    if held.Agrees qualifier then .ok settled
    else .error ⟨entity.identifier, held, qualifier⟩

@[simp] theorem get_put_self (typing : Typing) (entity : Entity) (profile : Profile) :
    (typing.put entity profile).get entity = profile := by
  simp [get, put, Table.find?_put_self]

theorem get_put_of_ne (typing : Typing) {entity other : Entity} (profile : Profile)
    (different : other ≠ entity) : (typing.put entity profile).get other = typing.get other := by
  simp [get, put, Table.find?_put_of_ne _ _ different]

end Typing
end SchemeTyping
