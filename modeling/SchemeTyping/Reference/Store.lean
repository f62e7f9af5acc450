import SchemeTyping.Reference.Basic

/-! Reference stores: the references of one analysis unit in the order in which they were added. No
two share an identifier and no two declarations own one element. -/
namespace SchemeTyping

/-- The references of one analysis unit. -/
structure Store where
  references : List Reference := []
  distinct : (references.map Reference.identifier).Nodup := by decide
  owned : (references.filterMap Reference.declaredElement?).Nodup := by decide
  deriving DecidableEq

/-- A store holds no reference of an identifier. -/
structure UnknownReference where
  identifier : String
  deriving DecidableEq, Repr

def UnknownReference.message (fault : UnknownReference) : String :=
  "unknown reference '" ++ fault.identifier ++ "'"

namespace Store

/-- Why a reference cannot be added. -/
inductive Fault where
  | identifierTaken (identifier : String)
  | elementTaken (element owner : String)
  deriving DecidableEq, Repr

def Fault.message : Fault → String
  | .identifierTaken identifier => "reference '" ++ identifier ++ "' already registered"
  | .elementTaken element owner =>
    "element '" ++ element ++ "' already declared by '" ++ owner ++ "'"

def empty : Store := {}

def size (store : Store) : Nat := store.references.length

def identifiers (store : Store) : List String := store.references.map Reference.identifier

def find? (store : Store) (identifier : String) : Option Reference :=
  store.references.find? (·.identifier == identifier)

def contains (store : Store) (identifier : String) : Bool := (store.find? identifier).isSome

/-- The reference of an identifier, or the fault that there is none. -/
def get (store : Store) (identifier : String) : Except UnknownReference Reference :=
  match store.find? identifier with
  | some reference => .ok reference
  | none => .error ⟨identifier⟩

/-- The declaration that owns an element. -/
def owner? (store : Store) (element : String) : Option Reference :=
  store.references.find? (·.declaredElement? == some element)

/-- The declaration that owns the element of a reference. -/
def declarationOf? (store : Store) (reference : Reference) : Option Reference :=
  reference.element.bind store.owner?

/-- What keeps a reference out of the store: first its identifier, then its element. -/
def obstacle? (store : Store) (reference : Reference) : Option Fault :=
  if reference.identifier ∈ store.identifiers then
    some (.identifierTaken reference.identifier)
  else
    match reference.declaredElement? with
    | none => none
    | some element =>
      (store.owner? element).map fun owner => .elementTaken element owner.identifier

theorem fresh_of_no_obstacle {store : Store} {reference : Reference}
    (free : store.obstacle? reference = none) :
    reference.identifier ∉ store.identifiers := by
  intro taken
  simp [obstacle?, taken] at free

theorem unowned_of_no_obstacle {store : Store} {reference : Reference} {element : String}
    (free : store.obstacle? reference = none)
    (declares : reference.declaredElement? = some element) :
    element ∉ store.references.filterMap Reference.declaredElement? := by
  intro present
  obtain ⟨owner, member, owns⟩ := List.mem_filterMap.mp present
  rw [obstacle?, if_neg (fresh_of_no_obstacle free), declares] at free
  have absent : store.owner? element = none := by simpa using free
  have apart := List.find?_eq_none.mp absent owner member
  simp [owns] at apart

/-- Add a reference at the end. -/
def add (store : Store) (reference : Reference) : Except Fault Store :=
  match free : store.obstacle? reference with
  | some fault => .error fault
  | none =>
    .ok {
      references := store.references ++ [reference]
      distinct := by
        rw [List.map_append, List.map_cons, List.map_nil]
        exact List.nodup_append.mpr ⟨store.distinct, by simp, by
          intro identifier present other single
          simp only [List.mem_singleton] at single
          subst single
          exact fun same => fresh_of_no_obstacle free (same ▸ present)⟩
      owned := by
        rw [List.filterMap_append]
        refine List.nodup_append.mpr ⟨store.owned, ?_, ?_⟩
        · cases declares : reference.declaredElement? <;> simp [declares]
        · intro element present other single
          cases declares : reference.declaredElement? with
          | none => simp [declares] at single
          | some own =>
            simp only [List.filterMap_cons, declares, List.filterMap_nil,
              List.mem_singleton] at single
            subst single
            exact fun same => unowned_of_no_obstacle free declares (same ▸ present) }

/-- The store of some references added one after the other. -/
def ofList (references : List Reference) : Except Fault Store :=
  references.foldlM add empty

end Store
end SchemeTyping
