import SchemeTyping.Proofs.Reference.Store
import SchemeTyping.Table

/-! A store after references were offered to it one after the other, some of them refused. What is found in
it is what two tables hold that are written one after the other, one by identifier and one by element: they
stay in step with the store, and a refusal leaves both of them alone. -/
namespace SchemeTyping

namespace Store
variable {store next : Store} {reference : Reference}

/-- The store after a reference was offered to it, and what kept the reference out, if anything did. -/
def offer (store : Store) (reference : Reference) : Store × Option Fault :=
  match store.add reference with
  | .ok next => (next, none)
  | .error fault => (store, some fault)

/-- References offered one after the other: the store that is reached, and what kept each of them out. -/
def offerAll (store : Store) : List Reference → Store × List (Option Fault)
  | [] => (store, [])
  | reference :: rest =>
    let later := (store.offer reference).1.offerAll rest
    (later.1, (store.offer reference).2 :: later.2)

/-- Those of some references that nothing kept out. -/
def admitted (references : List Reference) (faults : List (Option Fault)) : List Reference :=
  ((references.zip faults).filter fun offered => offered.2.isNone).map Prod.fst

theorem offer_of_ok (added : store.add reference = .ok next) : store.offer reference = (next, none) := by
  rw [offer, added]

theorem offer_of_error {fault : Fault} (refused : store.add reference = .error fault) :
    store.offer reference = (store, some fault) := by
  rw [offer, refused]

/-- The references that were admitted stand behind those that were there, in the order of the offers. -/
theorem references_offerAll (store : Store) (offered : List Reference) :
    (store.offerAll offered).1.references =
      store.references ++ admitted offered (store.offerAll offered).2 := by
  induction offered generalizing store with
  | nil => simp [offerAll, admitted]
  | cons reference rest ih =>
    simp only [offerAll, ih]
    cases outcome : store.add reference with
    | ok next =>
      rw [offer_of_ok outcome, (add_eq_ok outcome).1]
      simp [admitted]
    | error fault =>
      rw [offer_of_error outcome]
      simp [admitted]

theorem offerAll_append (store : Store) (first second : List Reference) :
    store.offerAll (first ++ second) =
      (((store.offerAll first).1.offerAll second).1,
        (store.offerAll first).2 ++ ((store.offerAll first).1.offerAll second).2) := by
  induction first generalizing store with
  | nil => rfl
  | cons reference rest ih => simp only [List.cons_append, offerAll, ih]

/-- References that a store takes without a refusal are all admitted when they are offered to it. -/
theorem offerAll_of_foldlM {references : List Reference} {whole : Store}
    (built : references.foldlM add store = .ok whole) :
    store.offerAll references = (whole, references.map fun _ => none) := by
  induction references generalizing store with
  | nil =>
    obtain rfl := Except.ok.inj built
    rfl
  | cons reference rest ih =>
    rw [List.foldlM_cons] at built
    cases added : store.add reference with
    | error fault =>
      rw [added] at built
      cases built
    | ok next =>
      rw [added] at built
      simp only [offerAll, offer_of_ok added, ih built, List.map_cons]

end Store

/-- The references of a store by their identifiers, and its declarations by their elements. Nothing but the
way they are written keeps the two tables in step. -/
structure Index where
  references : Table String Reference := Table.empty
  owners : Table String Reference := Table.empty

namespace Index

/-- What keeps a reference out, by what the tables hold. -/
def obstacle? (index : Index) (reference : Reference) : Option Store.Fault :=
  if index.references.contains reference.identifier then
    some (.identifierTaken reference.identifier)
  else
    match reference.declaredElement? with
    | none => none
    | some element =>
      (index.owners.find? element).map fun owner => .elementTaken element owner.identifier

def enterReference (index : Index) (reference : Reference) : Index :=
  { index with references := index.references.put reference.identifier reference }

def enterOwner (index : Index) (reference : Reference) : Index :=
  match reference.declaredElement? with
  | none => index
  | some element => { index with owners := index.owners.put element reference }

/-- The tables after a reference was offered: first it is examined, then one table is written, then the
other. -/
def offer (index : Index) (reference : Reference) : Index × Option Store.Fault :=
  match index.obstacle? reference with
  | some fault => (index, some fault)
  | none => ((index.enterReference reference).enterOwner reference, none)

def offerAll (index : Index) : List Reference → Index × List (Option Store.Fault)
  | [] => (index, [])
  | reference :: rest =>
    let later := (index.offer reference).1.offerAll rest
    (later.1, (index.offer reference).2 :: later.2)

/-- The entry of a declaration under its element. -/
def ownership? (reference : Reference) : Option (String × Reference) :=
  reference.declaredElement?.map fun element => (element, reference)

/-- The tables hold exactly what the store holds, in its order. -/
structure Mirrors (index : Index) (store : Store) : Prop where
  references : index.references.entries =
    store.references.map fun reference => (reference.identifier, reference)
  owners : index.owners.entries = store.references.filterMap ownership?

variable {index : Index} {store : Store} {reference : Reference}

theorem references_enterOwner (index : Index) (reference : Reference) :
    (index.enterOwner reference).references = index.references := by
  unfold enterOwner
  split <;> rfl

namespace Mirrors
variable (mirrors : index.Mirrors store)
include mirrors

theorem find?_references (identifier : String) :
    index.references.find? identifier = store.find? identifier := by
  rw [Table.find?_eq, mirrors.references, List.find?_map, Option.map_map]
  exact Option.map_id'

theorem find?_owners (element : String) : index.owners.find? element = store.owner? element := by
  have owns (reference : Reference) :
      (ownership? reference).any (fun entry => entry.1 == element) =
        (reference.declaredElement? == some element) := by
    unfold ownership?
    cases reference.declaredElement? <;> simp
  rw [Table.find?_eq, mirrors.owners, List.find?_filterMap, funext owns]
  change ((store.owner? element).bind ownership?).map Prod.snd = store.owner? element
  cases found : store.owner? element with
  | none => rfl
  | some owner => simp [ownership?, (Store.owner?_iff.mp found).2]

theorem keys_references : index.references.keys = store.identifiers := by
  rw [Table.keys, mirrors.references, List.map_map]
  rfl

theorem keys_owners : index.owners.keys = store.references.filterMap Reference.declaredElement? := by
  rw [Table.keys, mirrors.owners, List.map_filterMap]
  congr 1
  funext reference
  unfold ownership?
  cases reference.declaredElement? <;> rfl

theorem values_references : index.references.values = store.references := by
  rw [Table.values, mirrors.references, List.map_map]
  exact List.map_id' _

/-- The tables refuse what the store refuses, for the same reason. -/
theorem obstacle?_eq (reference : Reference) :
    index.obstacle? reference = store.obstacle? reference := by
  have known : index.references.contains reference.identifier = true ↔
      reference.identifier ∈ store.identifiers := by
    rw [Table.contains_iff, mirrors.keys_references]
  unfold obstacle? Store.obstacle?
  by_cases taken : reference.identifier ∈ store.identifiers
  · rw [if_pos (known.mpr taken), if_pos taken]
  · rw [if_neg fun held => taken (known.mp held), if_neg taken]
    cases reference.declaredElement? with
    | none => rfl
    | some element => exact congrArg (Option.map _) (mirrors.find?_owners element)

/-- A new reference enters the table by identifier at the end. -/
theorem references_enter (fresh : reference.identifier ∉ store.identifiers) :
    ((index.enterReference reference).enterOwner reference).references.entries =
      (store.references ++ [reference]).map fun stored => (stored.identifier, stored) := by
  rw [references_enterOwner, List.map_append, ← mirrors.references]
  apply Table.entries_put_of_fresh
  rw [mirrors.keys_references]
  exact fresh

/-- A new declaration enters the table by element at the end, and no other reference does. -/
theorem owners_enter (free : store.obstacle? reference = none) :
    ((index.enterReference reference).enterOwner reference).owners.entries =
      (store.references ++ [reference]).filterMap ownership? := by
  rw [List.filterMap_append, ← mirrors.owners]
  unfold enterOwner
  cases declares : reference.declaredElement? with
  | none => simp [ownership?, declares, enterReference]
  | some element =>
    have unowned : element ∉ index.owners.keys :=
      mirrors.keys_owners ▸ Store.unowned_of_no_obstacle free declares
    have entry : ownership? reference = some (element, reference) := by rw [ownership?, declares]; rfl
    rw [List.filterMap_cons_some entry]
    exact Table.entries_put_of_fresh unowned reference

/-- Both tables are written when the store takes a reference, and neither of them otherwise. -/
theorem offer (reference : Reference) :
    (index.offer reference).1.Mirrors (store.offer reference).1 ∧
      (index.offer reference).2 = (store.offer reference).2 := by
  unfold Index.offer
  -- Both sides meet the same obstacle, so either both of them write or neither does.
  rw [mirrors.obstacle?_eq]
  cases obstacle : store.obstacle? reference with
  | some fault =>
    rw [Store.offer_of_error (Store.add_eq_error.mpr obstacle)]
    exact ⟨mirrors, rfl⟩
  | none =>
    obtain ⟨next, added⟩ := Store.add_of_no_obstacle obstacle
    obtain ⟨listed, fresh⟩ := Store.add_eq_ok added
    rw [Store.offer_of_ok added]
    refine ⟨⟨?_, ?_⟩, rfl⟩
    · rw [listed]
      exact mirrors.references_enter fresh
    · rw [listed]
      exact mirrors.owners_enter obstacle

/-- Tables and store stay in step, whatever is offered to them. -/
theorem offerAll (offered : List Reference) :
    (index.offerAll offered).1.Mirrors (store.offerAll offered).1 ∧
      (index.offerAll offered).2 = (store.offerAll offered).2 := by
  induction offered generalizing index store with
  | nil => exact ⟨mirrors, rfl⟩
  | cons reference rest ih =>
    obtain ⟨inStep, sameFault⟩ := mirrors.offer reference
    obtain ⟨reached, sameFaults⟩ := ih inStep
    exact ⟨reached, congr (congrArg List.cons sameFault) sameFaults⟩

end Mirrors

/-- Two tables represent a store: each reference is in the first one under its identifier, in the order of
the store, and the second one holds under an element the one declaration that owns it. -/
structure Represents (index : Index) (store : Store) : Prop where
  order : index.references.values = store.references
  found identifier reference : index.references.find? identifier = some reference ↔
    reference ∈ store.references ∧ reference.identifier = identifier
  owned element declaration : index.owners.find? element = some declaration ↔
    declaration ∈ store.references ∧ declaration.kind.isDeclaration = true ∧
      declaration.element = some element
  apart : ∀ first ∈ store.references, ∀ second ∈ store.references, ∀ element,
    first.declaredElement? = some element → second.declaredElement? = some element → first = second

theorem Mirrors.represents (mirrors : index.Mirrors store) : index.Represents store where
  order := mirrors.values_references
  found identifier reference := by
    rw [mirrors.find?_references]
    exact Store.find?_iff
  owned element declaration := by
    rw [mirrors.find?_owners, Store.owner?_iff, Reference.declaredElement?_eq_some]
  apart _ firstMember _ secondMember _ firstOwns secondOwns :=
    eq_of_nodup_filterMap store.owned firstMember secondMember firstOwns secondOwns

end Index

namespace Store

/-- A store that was put together from a mapping and was then offered references, in whatever order and with
whatever refusals, is represented by the two tables that were written along the way. Its references are in
the order in which they were admitted. -/
theorem offerAll_represents {given : Table String Reference} {start : Store}
    (built : ofList given.values = .ok start) (offered : List Reference) :
    let reached := start.offerAll offered
    let index := Index.offerAll {} (given.values ++ offered)
    reached.1.references = given.values ++ admitted offered reached.2 ∧
      index.1.Represents reached.1 ∧
      index.2 = given.values.map (fun _ => none) ++ reached.2 ∧
      (∀ identifier, reached.1.find? identifier = index.1.references.find? identifier) ∧
      (∀ element, reached.1.owner? element = index.1.owners.find? element) ∧
      (∀ reference declaration, reached.1.declarationOf? reference = some declaration ↔
        declaration ∈ reached.1.references ∧ declaration.kind.isDeclaration = true ∧
          ∃ element, reference.element = some element ∧ declaration.element = some element) ∧
      (∀ reference, (∃ fault, reached.1.add reference = .error fault) ↔
        reference.identifier ∈ reached.1.identifiers ∨
          reference.kind.isDeclaration = true ∧ ∃ element, reference.element = some element ∧
            ∃ owner ∈ reached.1.references,
              owner.kind.isDeclaration = true ∧ owner.element = some element) ∧
      ∀ reference fault, reached.1.add reference = .error fault →
        index.1.offer reference = (index.1, some fault) := by
  intro reached index
  have whole : Store.empty.offerAll (given.values ++ offered) =
      (reached.1, given.values.map (fun _ => none) ++ reached.2) := by
    rw [offerAll_append, offerAll_of_foldlM built]
  have blank : Index.Mirrors {} Store.empty := ⟨rfl, rfl⟩
  obtain ⟨mirrors, sameFaults⟩ := blank.offerAll (given.values ++ offered)
  rw [whole] at mirrors sameFaults
  refine ⟨?_, mirrors.represents, sameFaults, ?_, ?_, ?_, ?_, ?_⟩
  · rw [references_offerAll, ofList_eq_ok.mp built]
  · intro identifier
    exact (mirrors.find?_references identifier).symm
  · intro element
    exact (mirrors.find?_owners element).symm
  · intro reference declaration
    exact declarationOf?_iff
  · intro reference
    exact refused_iff
  · intro reference fault refused
    have obstacle : index.1.obstacle? reference = some fault :=
      (mirrors.obstacle?_eq reference).trans (add_eq_error.mp refused)
    rw [Index.offer, obstacle]

/-- A variable, kept under a key that is not its identifier. -/
def mapped : Table String Reference := .ofList [("key", ⟨⟨0, "x"⟩, .variable, some "x"⟩)]

/-- A parameter for the element of the variable, a constant by the name of it, and an adapted view that
shares its element. -/
def colliding : List Reference := [⟨⟨1, "p"⟩, .parameter, some "x"⟩, ⟨⟨2, "x"⟩, .other, none⟩,
  ⟨⟨3, "v"⟩, .adapt ⟨0, "x"⟩, some "x"⟩]

/-- Only the view is admitted, and the variable is the declaration of its element. -/
theorem offerAll_represents_colliding : ∃ start, ofList mapped.values = .ok start ∧
    (start.offerAll colliding).2 = [some (.elementTaken "x" "x"), some (.identifierTaken "x"), none] ∧
    (start.offerAll colliding).1.identifiers = ["x", "v"] ∧
    (start.offerAll colliding).1.declarationOf? ⟨⟨3, "v"⟩, .adapt ⟨0, "x"⟩, some "x"⟩ =
      some ⟨⟨0, "x"⟩, .variable, some "x"⟩ := by
  let start : Store := ⟨mapped.values, by decide, by decide⟩
  have built : ofList mapped.values = .ok start := ofList_eq_ok.mpr rfl
  have outcomes : (start.offerAll colliding).2 =
      [some (.elementTaken "x" "x"), some (.identifierTaken "x"), none] := by decide +kernel
  obtain ⟨order, _, _, _, _, viewed, _⟩ := offerAll_represents built colliding
  refine ⟨start, built, outcomes, ?_, ?_⟩
  · rw [identifiers, order, outcomes]
    decide
  · rw [viewed, order, outcomes]
    decide

end Store
end SchemeTyping
