import SchemeTyping.Extraction.Pass
import SchemeTyping.Proofs.Extraction.Assignment

/-! Assignment leaves a typing that it does not change again, so a pass over what an earlier pass left
is the same pass. -/
namespace SchemeTyping

/-- A profile that assignment has nothing more to do with: it has no candidates, or only the qualifier
to which it is resolved. -/
def Profile.Rests (profile : Profile) : Prop :=
  profile.candidates.members = [] ∨ ∃ qualifier,
    profile.resolved = some qualifier ∧ profile.candidates = Candidates.single qualifier

namespace Hierarchy
variable {hierarchy : Hierarchy}

theorem maximal_nil : hierarchy.maximal [] = .ok none :=
  maximal_eq_ok.mpr ⟨by simp [Comparable], by simp⟩

/-- One qualifier alone is not compared, so it need not be ranked. -/
theorem maximal_singleton (qualifier : Qualifier) :
    hierarchy.maximal [qualifier] = .ok (some qualifier) :=
  maximal_eq_ok.mpr ⟨by simp [Comparable], by simp⟩

theorem rests_settled {profile : Profile} (admits : hierarchy.Admits profile) :
    (hierarchy.settled profile).Rests := by
  obtain ⟨choice, chosen⟩ := admits.offered
  cases choice with
  | none =>
    have same : hierarchy.settled profile = profile := by simp [settled, chosen]
    left
    rw [same]
    exact eq_nil_of_maximal chosen
  | some qualifier =>
    right
    exact ⟨qualifier, by simp [settled, chosen], by simp [settled, chosen]⟩

/-- Nothing is assigned to a profile at rest. -/
theorem assign_of_rests {typing : Typing} {reference : Reference}
    (rests : (typing.profile reference).Rests) : hierarchy.assign typing reference = .ok typing := by
  unfold assign
  rcases rests with empty | ⟨qualifier, resolved, single⟩
  · rw [empty, maximal_nil]
  · have members : (typing.profile reference).candidates.members = [qualifier] := by
      rw [single]
      rfl
    have known : typing.profiles.find? reference.entity = some (typing.profile reference) := by
      cases found : typing.profiles.find? reference.entity with
      | none =>
        -- An entity without a profile counts as having no candidates.
        have bare : (typing.profile reference).candidates.members = [] := by
          simp only [Typing.profile, Typing.get, found, Option.getD_none]
          rfl
        rw [bare] at members
        cases members
      | some profile => simp [Typing.profile, Typing.get, found]
    have kept : typing.put reference.entity
        { typing.get reference.entity with
          resolved := some qualifier, candidates := Candidates.single qualifier } = typing := by
      rw [← resolved, ← single]
      exact congrArg Typing.mk (Table.put_of_find? known)
    have held : (typing.get reference.entity).resolved = some qualifier := resolved
    have agrees : qualifier.Agrees qualifier := rfl
    rw [members, maximal_singleton]
    simp only [Typing.resolve, kept, held, agrees, if_true]
    rfl

theorem assignAll_of_rests {typing : Typing} {references : List Reference}
    (rests : ∀ reference ∈ references, (typing.profile reference).Rests) :
    hierarchy.assignAll typing references = (typing, none) := by
  induction references with
  | nil => rfl
  | cons reference rest ih =>
    have first : hierarchy.assign typing reference = .ok typing :=
      assign_of_rests (rests reference List.mem_cons_self)
    simp only [assignAll, first]
    exact ih fun other member => rests other (List.mem_cons_of_mem _ member)

/-- After an assignment over references that completes, another one over them changes nothing. -/
theorem assignAll_again {references : List Reference}
    (distinct : (references.map Reference.entity).Nodup) {typing after : Typing}
    (assigned : hierarchy.assignAll typing references = (after, none)) :
    hierarchy.assignAll after references = (after, none) := by
  have admits := admits_of_assignAll distinct assigned
  refine assignAll_of_rests fun reference member => ?_
  have inside : reference.entity ∈ references.map Reference.entity :=
    List.mem_map.mpr ⟨reference, member, rfl⟩
  rw [Typing.profile, get_of_assignAll distinct assigned, if_pos inside]
  exact rests_settled (admits reference member)

end Hierarchy

namespace Setting
variable {setting : Setting} {after : Typing}

/-- A pass leaves the typing that assignment yields. -/
theorem typing_extract (constraints : List Constraint) (ledger : Ledger)
    (assigned : setting.hierarchy.assignAll setting.typing setting.store.references = (after, none)) :
    (setting.extract constraints ledger).typing = after := by
  unfold extract
  rw [assigned]
  dsimp only
  split <;> rfl

/-- A pass reads nothing of a typing but what assignment makes of it. -/
theorem extract_again (constraints : List Constraint) (ledger : Ledger)
    (assigned : setting.hierarchy.assignAll setting.typing setting.store.references = (after, none))
    (again : setting.hierarchy.assignAll after setting.store.references = (after, none)) :
    { setting with typing := after }.extract constraints ledger =
      setting.extract constraints ledger := by
  simp only [extract, assigned, again]

end Setting
end SchemeTyping
