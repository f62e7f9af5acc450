import SchemeTyping.AnalysisUnit.Loading
import SchemeTyping.Proofs.Outcome
import SchemeTyping.Proofs.Reference.Store

/-! What a store, a typing, constraints and a policy owe to the declarations they were bound from. One
declaration keeps the invariant, and so does a whole file. -/
namespace SchemeTyping

namespace Candidates
variable {candidates : Candidates} {qualifier : Qualifier} {qualifiers : List Qualifier}

theorem mem_names_insert {name : String} :
    name ∈ (candidates.insert qualifier).members.map Qualifier.name ↔
      name ∈ candidates.members.map Qualifier.name ∨ name = qualifier.name := by
  unfold insert
  split
  · next known =>
    constructor
    · exact .inl
    · rintro (old | rfl)
      · exact old
      · exact known
  · rw [List.map_append, List.mem_append, List.map_cons, List.map_nil, List.mem_singleton]

theorem mem_of_mem_insert {other : Qualifier}
    (member : other ∈ (candidates.insert qualifier).members) :
    other ∈ candidates.members ∨ other = qualifier := by
  unfold insert at member
  split at member
  · exact .inl member
  · simpa using member

theorem mem_names_insertAll {name : String} :
    name ∈ (candidates.insertAll qualifiers).members.map Qualifier.name ↔
      name ∈ candidates.members.map Qualifier.name ∨ name ∈ qualifiers.map Qualifier.name := by
  induction qualifiers generalizing candidates with
  | nil => simp [insertAll]
  | cons first rest ih =>
    rw [show candidates.insertAll (first :: rest) = (candidates.insert first).insertAll rest from rfl,
      ih, mem_names_insert, List.map_cons, List.mem_cons, or_assoc]

theorem mem_of_mem_insertAll {other : Qualifier}
    (member : other ∈ (candidates.insertAll qualifiers).members) :
    other ∈ candidates.members ∨ other ∈ qualifiers := by
  induction qualifiers generalizing candidates with
  | nil => exact .inl member
  | cons first rest ih =>
    rcases ih member with old | later
    · rcases mem_of_mem_insert old with older | rfl
      · exact .inl older
      · exact .inr List.mem_cons_self
    · exact .inr (List.mem_cons_of_mem _ later)

/-- The set of some qualifiers has their names and holds none but them. -/
theorem mem_names_ofList {name : String} :
    name ∈ (ofList qualifiers).members.map Qualifier.name ↔ name ∈ qualifiers.map Qualifier.name := by
  simp [ofList, mem_names_insertAll, empty]

theorem mem_of_mem_ofList {other : Qualifier} (member : other ∈ (ofList qualifiers).members) :
    other ∈ qualifiers :=
  (mem_of_mem_insertAll member).resolve_left List.not_mem_nil

end Candidates

namespace AnalysisUnit
variable {hierarchy : Hierarchy} {store : Store}

/-- A mention is bound to a ranked qualifier of its name. -/
theorem mention_bind_eq_ok {mention : Mention} {qualifier : Qualifier}
    (found : mention.bind hierarchy = .ok qualifier) :
    qualifier ∈ hierarchy.order ∧ qualifier.name = mention.name := by
  unfold Mention.bind at found
  split at found
  · next ranked known =>
    obtain rfl := Except.ok.inj found
    exact ⟨List.mem_of_find?_eq_some known, by simpa using List.find?_some known⟩
  · cases found

theorem bindMentions_eq_ok {mentions : List Mention} {qualifiers : List Qualifier}
    (found : bindMentions hierarchy mentions = .ok qualifiers) :
    qualifiers.map Qualifier.name = mentions.map Mention.name ∧
      ∀ qualifier ∈ qualifiers, qualifier ∈ hierarchy.order := by
  induction mentions generalizing qualifiers with
  | nil =>
    obtain rfl := Except.ok.inj found
    exact ⟨rfl, by simp⟩
  | cons mention rest ih =>
    unfold bindMentions at found
    split at found
    · cases found
    · next first ranked =>
      obtain ⟨later, foundLater, rfl⟩ := Outcome.map_eq_ok.mp found
      obtain ⟨member, name⟩ := mention_bind_eq_ok ranked
      obtain ⟨names, members⟩ := ih foundLater
      refine ⟨by rw [List.map_cons, List.map_cons, name, names], fun qualifier present => ?_⟩
      rcases List.mem_cons.mp present with rfl | inRest
      · exact member
      · exact members qualifier inRest

/-- A reference declaration that is bound fixes the whole reference and its first profile. -/
theorem reference_bind_eq_ok {declaration : ReferenceDeclaration} {reference : Reference}
    {profile : Profile} : declaration.bind hierarchy store = .ok (reference, profile) ↔
      store.contains declaration.identifier = false ∧ ∃ kind options candidates,
        declaration.kind.bind (bindTarget store declaration.offset) = .ok kind ∧
        bindOptions hierarchy declaration.identifier {} declaration.options = .ok options ∧
        bindMentions hierarchy declaration.qualifiers = .ok candidates ∧
        reference = .make store.size declaration.identifier kind options.element ∧
        profile = .initial declaration.identifier (options.name.getD "") candidates
          options.crypt := by
  unfold ReferenceDeclaration.bind
  cases known : store.contains declaration.identifier with
  | true => simp
  | false =>
    cases bound : declaration.kind.bind (bindTarget store declaration.offset) with
    | error fault => simp
    | ok kind =>
      cases taken : bindOptions hierarchy declaration.identifier {} declaration.options with
      | error fault => simp
      | ok options =>
        cases listed : bindMentions hierarchy declaration.qualifiers with
        | error fault => simp [Except.map]
        | ok candidates =>
          simp only [Except.map, Bool.false_eq_true, if_false, Except.ok.injEq, Prod.mk.injEq,
            true_and, exists_and_left, exists_eq_left']
          exact and_congr eq_comm eq_comm

/-- The reference declarations of a file in order. -/
def declaredReferences (declarations : List Declaration) : List ReferenceDeclaration :=
  declarations.filterMap fun
    | .reference declaration => some declaration
    | _ => none

/-- The constraint declarations of a file in order. -/
def declaredConstraints (declarations : List Declaration) : List ConstraintDeclaration :=
  declarations.filterMap fun
    | .constraint declaration => some declaration
    | _ => none

/-- The constraint that a declaration stands for; its severity is no part of it. -/
def ConstraintDeclaration.constraint (declaration : ConstraintDeclaration) : Constraint :=
  { left := declaration.left, right := declaration.right, position := declaration.position,
    label := declaration.label }

/-- A policy after a constraint declaration: a severity that is written enters it. -/
def ConstraintDeclaration.enter (policy : Policy) (declaration : ConstraintDeclaration) : Policy :=
  match declaration.severity with
  | some severity => policy.setStatus declaration.constraint severity
  | none => policy

/-- What is bound reflects the declarations taken up so far: each reference is what its declaration was
bound to, and the constraints and the policy are those that were written. -/
structure Bound.Reflects (hierarchy : Hierarchy) (declarations : List Declaration)
    (bound : Bound) : Prop where
  identifiers : bound.store.identifiers =
    (declaredReferences declarations).map ReferenceDeclaration.identifier
  references : ∀ declaration ∈ declaredReferences declarations, ∃ reference earlier,
    bound.store.find? declaration.identifier = some reference ∧
      declaration.bind hierarchy earlier = .ok (reference, bound.typing.profile reference)
  constraints : bound.constraints =
    (declaredConstraints declarations).map ConstraintDeclaration.constraint
  policy : bound.policy = (declaredConstraints declarations).foldl ConstraintDeclaration.enter {}
  ends : ∀ constraint ∈ bound.constraints, constraint.left ∈ bound.store.identifiers ∧
    constraint.right ∈ bound.store.identifiers

namespace Bound
variable {declarations : List Declaration} {bound next : Bound}

theorem reflects_nil (hierarchy : Hierarchy) : Reflects hierarchy [] {} where
  identifiers := rfl
  references := by simp [declaredReferences]
  constraints := rfl
  policy := rfl
  ends := by simp

/-- Every reference of the store was declared. -/
theorem Reflects.declared (reflects : Reflects hierarchy declarations bound) {reference : Reference}
    (member : reference ∈ bound.store.references) :
    ∃ declaration ∈ declaredReferences declarations, ∃ earlier,
      declaration.identifier = reference.identifier ∧
        declaration.bind hierarchy earlier = .ok (reference, bound.typing.profile reference) := by
  have listed : reference.identifier ∈
      (declaredReferences declarations).map ReferenceDeclaration.identifier := by
    rw [← reflects.identifiers]
    exact List.mem_map.mpr ⟨reference, member, rfl⟩
  obtain ⟨declaration, present, same⟩ := List.mem_map.mp listed
  obtain ⟨other, earlier, found, bind⟩ := reflects.references declaration present
  have identical : other = reference := by
    rw [same, Store.find?_of_mem member] at found
    exact (Option.some.inj found).symm
  subst identical
  exact ⟨declaration, present, earlier, same, bind⟩

theorem addReference_eq_ok {declaration : ReferenceDeclaration}
    (added : bound.addReference hierarchy declaration = .ok next) :
    ∃ reference profile, declaration.bind hierarchy bound.store = .ok (reference, profile) ∧
      bound.store.add reference = .ok next.store ∧
      next.typing = bound.typing.put reference.entity profile ∧
      next.constraints = bound.constraints ∧ next.policy = bound.policy := by
  unfold addReference at added
  split at added
  · cases added
  · next reference profile found =>
    split at added
    · cases added
    · next store stored =>
      obtain rfl := Except.ok.inj added
      exact ⟨reference, profile, found, stored, rfl, rfl, rfl⟩

theorem Reflects.addReference (reflects : Reflects hierarchy declarations bound)
    {declaration : ReferenceDeclaration}
    (added : bound.addReference hierarchy declaration = .ok next) :
    Reflects hierarchy (declarations ++ [.reference declaration]) next := by
  obtain ⟨reference, profile, found, stored, typing, constraints, policy⟩ :=
    addReference_eq_ok added
  obtain ⟨listed, fresh⟩ := Store.add_eq_ok stored
  obtain ⟨_, _, _, _, _, _, _, made, _⟩ := reference_bind_eq_ok.mp found
  have own : reference.identifier = declaration.identifier := congrArg Reference.identifier made
  have identifiers : next.store.identifiers =
      bound.store.identifiers ++ [declaration.identifier] := by
    rw [Store.identifiers, listed, List.map_append, List.map_cons, List.map_nil, own]
    rfl
  have declared : declaredReferences (declarations ++ [.reference declaration]) =
      declaredReferences declarations ++ [declaration] := by
    simp [declaredReferences]
  have unconstrained : declaredConstraints (declarations ++ [.reference declaration]) =
      declaredConstraints declarations := by
    simp [declaredConstraints]
  refine ⟨?_, ?_, ?_, ?_, ?_⟩
  · rw [identifiers, declared, List.map_append, reflects.identifiers]
    rfl
  · rw [declared]
    intro other member
    rcases List.mem_append.mp member with old | new
    · obtain ⟨earlierReference, earlier, before, bind⟩ := reflects.references other old
      refine ⟨earlierReference, earlier, Store.find?_of_add stored before, ?_⟩
      have apart : earlierReference.entity ≠ reference.entity := by
        intro same
        have present : earlierReference.identifier ∈ bound.store.identifiers :=
          List.mem_map.mpr ⟨earlierReference, (Store.find?_eq_some before).1, rfl⟩
        have identical : earlierReference.identifier = reference.identifier :=
          congrArg Entity.identifier same
        exact fresh (identical ▸ present)
      rw [typing, Typing.profile, Typing.get_put_of_ne _ _ apart]
      exact bind
    · obtain rfl := List.mem_singleton.mp new
      refine ⟨reference, bound.store, own ▸ Store.find?_added stored, ?_⟩
      rw [typing, Typing.profile, Typing.get_put_self]
      exact found
  · rw [constraints, unconstrained, reflects.constraints]
  · rw [policy, unconstrained]
    exact reflects.policy
  · rw [constraints, identifiers]
    intro constraint member
    obtain ⟨left, right⟩ := reflects.ends constraint member
    exact ⟨List.mem_append_left _ left, List.mem_append_left _ right⟩

theorem addConstraint_eq_ok {declaration : ConstraintDeclaration}
    (added : bound.addConstraint declaration = .ok next) :
    declaration.left ∈ bound.store.identifiers ∧ declaration.right ∈ bound.store.identifiers ∧
      next = { bound with
        constraints := bound.constraints ++ [declaration.constraint]
        policy := declaration.enter bound.policy } := by
  unfold addConstraint at added
  split at added
  · cases added
  · next declared =>
    have known : ∀ identifier ∈ [declaration.left, declaration.right],
        identifier ∈ bound.store.identifiers := by
      intro identifier member
      have present := List.find?_eq_none.mp declared identifier member
      exact Store.contains_iff.mp (by simpa using present)
    exact ⟨known _ (by simp), known _ (by simp), (Except.ok.inj added).symm⟩

theorem Reflects.addConstraint (reflects : Reflects hierarchy declarations bound)
    {declaration : ConstraintDeclaration} (added : bound.addConstraint declaration = .ok next) :
    Reflects hierarchy (declarations ++ [.constraint declaration]) next := by
  obtain ⟨left, right, rfl⟩ := addConstraint_eq_ok added
  have declared : declaredReferences (declarations ++ [.constraint declaration]) =
      declaredReferences declarations := by
    simp [declaredReferences]
  have constrained : declaredConstraints (declarations ++ [.constraint declaration]) =
      declaredConstraints declarations ++ [declaration] := by
    simp [declaredConstraints]
  refine ⟨?_, ?_, ?_, ?_, ?_⟩
  · rw [declared]
    exact reflects.identifiers
  · rw [declared]
    exact reflects.references
  · rw [constrained, List.map_append, ← reflects.constraints]
    rfl
  · rw [constrained, List.foldl_append, ← reflects.policy]
    rfl
  · intro constraint member
    rcases List.mem_append.mp member with old | new
    · exact reflects.ends constraint old
    · obtain rfl := List.mem_singleton.mp new
      exact ⟨left, right⟩

/-- One declaration keeps the invariant. -/
theorem Reflects.add (reflects : Reflects hierarchy declarations bound) {declaration : Declaration}
    (added : bound.add hierarchy declaration = .ok next) :
    Reflects hierarchy (declarations ++ [declaration]) next := by
  cases declaration with
  | hierarchy block =>
    obtain rfl := Except.ok.inj added
    have declared : declaredReferences (declarations ++ [.hierarchy block]) =
        declaredReferences declarations := by
      simp [declaredReferences]
    have constrained : declaredConstraints (declarations ++ [.hierarchy block]) =
        declaredConstraints declarations := by
      simp [declaredConstraints]
    exact ⟨declared ▸ reflects.identifiers, declared ▸ reflects.references,
      constrained ▸ reflects.constraints, constrained ▸ reflects.policy, reflects.ends⟩
  | reference declaration => exact reflects.addReference added
  | constraint declaration => exact reflects.addConstraint added

/-- Taking up all declarations keeps the invariant. -/
theorem Reflects.addAll {rest : List Declaration} (reflects : Reflects hierarchy declarations bound)
    (added : bound.addAll hierarchy rest = (next, none)) :
    Reflects hierarchy (declarations ++ rest) next := by
  induction rest generalizing declarations bound with
  | nil =>
    obtain rfl := (Prod.mk.inj added).1
    simpa using reflects
  | cons declaration rest ih =>
    unfold Bound.addAll at added
    split at added
    · cases (Prod.mk.inj added).2
    · next after taken =>
      have later := ih (reflects.add taken) added
      simpa using later

end Bound

/-- A loaded unit has a hierarchy and reflects the declarations of its text. -/
theorem load_eq_ok {text : List Char} {source : String} {unit : AnalysisUnit}
    (loaded : (load text source).result = .ok unit) :
    ∃ declarations hierarchy bound, parse text = .ok declarations ∧
      bindHierarchy declarations = .ok hierarchy ∧ Bound.Reflects hierarchy declarations bound ∧
      unit = ⟨bound.store, bound.typing, bound.constraints, hierarchy, bound.policy, source⟩ := by
  unfold load at loaded
  split at loaded
  · cases loaded
  · next declarations parsed =>
    have found : parse text = .ok declarations := Outcome.mapError_eq_ok.mp parsed
    unfold assemble at loaded
    split at loaded
    · cases loaded
    · next hierarchy bound =>
      split at loaded
      · cases loaded
      · next after added =>
        obtain rfl := Except.ok.inj loaded
        have reflects := (Bound.reflects_nil hierarchy).addAll added
        exact ⟨declarations, hierarchy, after, found, bound, reflects, rfl⟩

end AnalysisUnit
end SchemeTyping
