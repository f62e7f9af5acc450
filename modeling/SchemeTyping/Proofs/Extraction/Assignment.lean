import SchemeTyping.Extraction.Assignment
import SchemeTyping.Proofs.Hierarchy.Preference
import SchemeTyping.Proofs.Outcome

/-! Maximal assignment settles every listed reference and changes nothing else. It completes exactly if
each of them admits it; ranked candidates do, and then the reference is resolved to their leader. -/
namespace SchemeTyping
namespace Hierarchy

/-- A profile that assignment can settle: its candidates are ranked, and it is not resolved to
another qualifier than the most preferred of them. -/
structure Settles (hierarchy : Hierarchy) (profile : Profile) : Prop where
  ranked : ∀ qualifier ∈ profile.candidates.members, qualifier.name ∈ hierarchy.names
  free : ∀ held ∈ profile.resolved, ∀ qualifier,
    hierarchy.maximal profile.candidates.members = .ok (some qualifier) → held.Agrees qualifier

/-- A profile after assignment. Without candidates it stays as it is. -/
def settled (hierarchy : Hierarchy) (profile : Profile) : Profile :=
  match hierarchy.maximal profile.candidates.members with
  | .ok (some qualifier) =>
    { profile with resolved := some qualifier, candidates := Candidates.single qualifier }
  | _ => profile

/-- A profile that was never resolved is settled on the leader of its candidates. -/
theorem resolved_settled {hierarchy : Hierarchy} {profile : Profile} (free : profile.resolved = none)
    (ranked : ∀ qualifier ∈ profile.candidates.members, qualifier ∈ hierarchy.order) :
    (hierarchy.settled profile).resolved.map Qualifier.name =
        leader? hierarchy.names (profile.candidates.members.map Qualifier.name) ∧
      ∀ qualifier ∈ (hierarchy.settled profile).resolved, qualifier ∈ hierarchy.order := by
  have named : ∀ qualifier ∈ profile.candidates.members, qualifier.name ∈ hierarchy.names :=
    fun qualifier member => List.mem_map.mpr ⟨qualifier, ranked qualifier member, rfl⟩
  obtain ⟨choice, chosen, members, leads⟩ := maximal_of_ranked named
  have resolved : (hierarchy.settled profile).resolved = choice := by
    cases choice with
    | none => simp [settled, chosen, free]
    | some qualifier => simp [settled, chosen]
  rw [resolved]
  exact ⟨leads, fun qualifier held => ranked qualifier (members qualifier held)⟩

/-- A profile that assignment can take up: its candidates offer a choice, be it none, and it is not
resolved to another qualifier than the choice. One candidate alone need not be ranked. -/
structure Admits (hierarchy : Hierarchy) (profile : Profile) : Prop where
  offered : ∃ choice, hierarchy.maximal profile.candidates.members = .ok choice
  free : ∀ held ∈ profile.resolved, ∀ qualifier,
    hierarchy.maximal profile.candidates.members = .ok (some qualifier) → held.Agrees qualifier

theorem Settles.admits {hierarchy : Hierarchy} {profile : Profile}
    (settles : hierarchy.Settles profile) : hierarchy.Admits profile := by
  obtain ⟨choice, chosen, _, _⟩ := maximal_of_ranked settles.ranked
  exact ⟨⟨choice, chosen⟩, settles.free⟩

theorem assign_of_admits {hierarchy : Hierarchy} {typing : Typing} {reference : Reference}
    (admits : hierarchy.Admits (typing.profile reference)) :
    ∃ after, hierarchy.assign typing reference = .ok after ∧
      ∀ entity, after.get entity =
        if entity = reference.entity then hierarchy.settled (typing.get entity)
        else typing.get entity := by
  obtain ⟨choice, chosen⟩ := admits.offered
  cases choice with
  | none =>
    refine ⟨typing, by simp [assign, chosen], fun entity => ?_⟩
    by_cases same : entity = reference.entity
    · subst same
      simp only [Typing.profile] at chosen
      simp [settled, chosen]
    · simp [same]
  | some qualifier =>
    let profile : Profile := { typing.profile reference with
      resolved := some qualifier, candidates := Candidates.single qualifier }
    refine ⟨typing.put reference.entity profile, ?_, fun entity => ?_⟩
    · simp only [assign, chosen, Typing.resolve]
      cases held : (typing.get reference.entity).resolved with
      | none => rfl
      | some other =>
        have agrees := admits.free other held qualifier chosen
        simp only [agrees, if_true]
        rfl
    · by_cases same : entity = reference.entity
      · subst same
        simp only [Typing.profile] at chosen
        simp [settled, chosen, profile, Typing.profile]
      · rw [Typing.get_put_of_ne _ _ same, if_neg same]

/-- Only a profile that admits it is assigned to. -/
theorem admits_of_assign {hierarchy : Hierarchy} {typing after : Typing} {reference : Reference}
    (assigned : hierarchy.assign typing reference = .ok after) :
    hierarchy.Admits (typing.profile reference) := by
  unfold assign at assigned
  split at assigned
  · cases assigned
  · next chosen =>
    refine ⟨⟨none, chosen⟩, fun held _ qualifier other => ?_⟩
    rw [chosen] at other
    cases other
  · next qualifier chosen =>
    refine ⟨⟨some qualifier, chosen⟩, fun held resolved other same => ?_⟩
    obtain rfl := Option.some.inj (Except.ok.inj (chosen.symm.trans same))
    have resolved : (typing.get reference.entity).resolved = some held := resolved
    have taken := Outcome.mapError_eq_ok.mp assigned
    simp only [Typing.resolve, resolved] at taken
    split at taken
    · next agrees => exact agrees
    · cases taken

/-- Every listed reference is settled once, and no other profile changes. -/
theorem assignAll_of_admits {hierarchy : Hierarchy} {references : List Reference}
    (distinct : (references.map Reference.entity).Nodup) {typing : Typing}
    (admits : ∀ reference ∈ references, hierarchy.Admits (typing.profile reference)) :
    ∃ after, hierarchy.assignAll typing references = (after, none) ∧
      ∀ entity, after.get entity =
        if entity ∈ references.map Reference.entity then hierarchy.settled (typing.get entity)
        else typing.get entity := by
  induction references generalizing typing with
  | nil => exact ⟨typing, rfl, fun entity => by simp⟩
  | cons reference rest ih =>
    obtain ⟨absent, distinctRest⟩ := List.nodup_cons.mp (List.map_cons ▸ distinct)
    obtain ⟨next, assigned, gets⟩ := assign_of_admits (admits reference List.mem_cons_self)
    have unchanged : ∀ entity ∈ rest.map Reference.entity, next.get entity = typing.get entity := by
      intro entity later
      have other : entity ≠ reference.entity := fun same => absent (same ▸ later)
      rw [gets, if_neg other]
    have restAdmits : ∀ other ∈ rest, hierarchy.Admits (next.profile other) := by
      intro other member
      rw [Typing.profile, unchanged _ (List.mem_map.mpr ⟨other, member, rfl⟩)]
      exact admits other (List.mem_cons_of_mem _ member)
    obtain ⟨after, completed, later⟩ := ih distinctRest restAdmits
    refine ⟨after, by simp only [assignAll, assigned, completed], fun entity => ?_⟩
    rw [later entity]
    by_cases inside : entity ∈ rest.map Reference.entity
    · rw [if_pos inside, if_pos (List.map_cons ▸ List.mem_cons_of_mem _ inside),
        unchanged entity inside]
    · rw [if_neg inside, gets]
      simp only [List.map_cons, List.mem_cons, inside, or_false]

theorem assignAll_of_settles {hierarchy : Hierarchy} {references : List Reference}
    (distinct : (references.map Reference.entity).Nodup) {typing : Typing}
    (settles : ∀ reference ∈ references, hierarchy.Settles (typing.profile reference)) :
    ∃ after, hierarchy.assignAll typing references = (after, none) ∧
      ∀ entity, after.get entity =
        if entity ∈ references.map Reference.entity then hierarchy.settled (typing.get entity)
        else typing.get entity :=
  assignAll_of_admits distinct fun reference member => (settles reference member).admits

/-- What completes was admitted from the start, since no reference changes the profile of another. -/
theorem admits_of_assignAll {hierarchy : Hierarchy} {references : List Reference}
    (distinct : (references.map Reference.entity).Nodup) {typing after : Typing}
    (assigned : hierarchy.assignAll typing references = (after, none)) :
    ∀ reference ∈ references, hierarchy.Admits (typing.profile reference) := by
  induction references generalizing typing with
  | nil => simp
  | cons reference rest ih =>
    obtain ⟨absent, distinctRest⟩ := List.nodup_cons.mp (List.map_cons ▸ distinct)
    unfold assignAll at assigned
    split at assigned
    · cases (Prod.mk.inj assigned).2
    · next first taken =>
      have admits := admits_of_assign taken
      obtain ⟨same, retaken, gets⟩ := assign_of_admits admits
      obtain rfl : first = same := Except.ok.inj (taken.symm.trans retaken)
      intro other member
      rcases List.mem_cons.mp member with rfl | later
      · exact admits
      · have apart : other.entity ≠ reference.entity := fun equal =>
          absent (equal ▸ List.mem_map.mpr ⟨other, later, rfl⟩)
        have kept : first.profile other = typing.profile other := by
          rw [Typing.profile, gets, if_neg apart]
          rfl
        exact kept ▸ ih distinctRest assigned other later

/-- What an assignment that completes leaves: every listed reference is settled, and nothing else has
changed. -/
theorem get_of_assignAll {hierarchy : Hierarchy} {references : List Reference}
    (distinct : (references.map Reference.entity).Nodup) {typing after : Typing}
    (assigned : hierarchy.assignAll typing references = (after, none)) (entity : Entity) :
    after.get entity =
      if entity ∈ references.map Reference.entity then hierarchy.settled (typing.get entity)
      else typing.get entity := by
  obtain ⟨same, completed, gets⟩ :=
    assignAll_of_admits distinct (admits_of_assignAll distinct assigned)
  obtain rfl := (Prod.mk.inj (assigned.symm.trans completed)).1
  exact gets entity

end Hierarchy
end SchemeTyping
