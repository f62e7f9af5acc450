import Mathlib.Data.List.Nodup
import SchemeTyping.Proofs.Hierarchy.Preference
import SchemeTyping.Proofs.Outcome

/-! Choosing from some qualifiers of different names: the choice is the one that outranks all others, in
whatever order they are listed. It fails exactly if two or more are listed and one of them is not
ranked. -/
namespace SchemeTyping
namespace Hierarchy
variable {hierarchy : Hierarchy} {qualifiers others : List Qualifier} {choice : Qualifier}

theorem exists_rank?_iff {name : String} :
    (∃ rank, hierarchy.rank? name = some rank) ↔ name ∈ hierarchy.names := by
  rw [← Option.isSome_iff_exists]
  exact List.isSome_idxOf?

/-- No two names have one rank. -/
theorem rank?_injective {first second : String} {rank : Nat}
    (firstRanked : hierarchy.rank? first = some rank)
    (secondRanked : hierarchy.rank? second = some rank) : first = second := by
  obtain ⟨_, here, _⟩ := List.findIdx?_eq_some_iff_getElem.mp firstRanked
  obtain ⟨_, there, _⟩ := List.findIdx?_eq_some_iff_getElem.mp secondRanked
  exact (beq_iff_eq.mp here).symm.trans (beq_iff_eq.mp there)

theorem rankOrZero_eq {qualifier : Qualifier} {rank : Nat}
    (ranked : hierarchy.rank? qualifier.name = some rank) : hierarchy.rankOrZero qualifier = rank := by
  rw [rankOrZero, ranked, Option.getD_some]

/-- Both names are ranked, and the first one before the second. -/
def Outranks (hierarchy : Hierarchy) (first second : String) : Prop :=
  ∃ rank later, hierarchy.rank? first = some rank ∧ hierarchy.rank? second = some later ∧ rank < later

theorem Outranks.asymm {first second : String} (before : hierarchy.Outranks first second) :
    ¬ hierarchy.Outranks second first := by
  rintro ⟨laterAgain, rankAgain, secondRanked, firstRanked, behind⟩
  obtain ⟨rank, later, firstFound, secondFound, ahead⟩ := before
  rw [firstFound] at firstRanked
  rw [secondFound] at secondRanked
  obtain rfl := Option.some.inj firstRanked
  obtain rfl := Option.some.inj secondRanked
  omega

/-- One of some qualifiers leads them if it outranks all others. One alone leads also if it is not
ranked. -/
structure Leads (hierarchy : Hierarchy) (qualifiers : List Qualifier) (choice : Qualifier) : Prop where
  member : choice ∈ qualifiers
  outranks : ∀ other ∈ qualifiers, other ≠ choice → hierarchy.Outranks choice.name other.name

namespace Leads

theorem unique {second : Qualifier} (leads : hierarchy.Leads qualifiers choice)
    (again : hierarchy.Leads qualifiers second) : choice = second := by
  apply Decidable.byContradiction
  intro apart
  have ahead := leads.outranks second again.member (Ne.symm apart)
  exact ahead.asymm (again.outranks choice leads.member apart)

/-- Who leads does not depend on the order of the list. -/
theorem perm (leads : hierarchy.Leads qualifiers choice) (same : others.Perm qualifiers) :
    hierarchy.Leads others choice where
  member := same.mem_iff.mpr leads.member
  outranks other listed := leads.outranks other (same.mem_iff.mp listed)

/-- If one of several qualifiers leads, all of them are ranked. -/
theorem ranked (leads : hierarchy.Leads qualifiers choice) (distinct : qualifiers.Nodup) :
    hierarchy.Comparable qualifiers := by
  intro several
  obtain ⟨other, listed, apart⟩ : ∃ other ∈ qualifiers, other ≠ choice := by
    apply Classical.byContradiction
    intro alone
    have within : qualifiers ⊆ [choice] := fun other listed =>
      List.mem_singleton.mpr (Classical.byContradiction fun apart => alone ⟨other, listed, apart⟩)
    have bounded := distinct.length_le_of_subset within
    have some := List.length_pos_of_mem leads.member
    simp only [List.length_singleton] at bounded
    omega
  intro qualifier member
  by_cases same : qualifier = choice
  · subst same
    obtain ⟨rank, _, found, _⟩ := leads.outranks other listed apart
    exact exists_rank?_iff.mp ⟨rank, found⟩
  · obtain ⟨_, later, _, found, _⟩ := leads.outranks qualifier member same
    exact exists_rank?_iff.mp ⟨later, found⟩

end Leads

/-! Sorting and choosing. -/

/-- A choice fails only over one of several qualifiers that is not ranked. -/
theorem maximal_eq_error {fault : Unranked} (failed : hierarchy.maximal qualifiers = .error fault) :
    2 ≤ qualifiers.length ∧ fault.qualifier ∈ qualifiers ∧
      fault.qualifier.name ∉ hierarchy.names := by
  have unsorted := Outcome.map_eq_error.mp failed
  unfold sort at unsorted
  split at unsorted
  · next qualifier found =>
    obtain rfl := Except.error.inj unsorted
    obtain ⟨member, several⟩ := (Runs.mem_readOrder _ _ _).mp (List.mem_of_find?_eq_some found)
    have outside : hierarchy.isRanked qualifier = false := by simpa using List.find?_some found
    refine ⟨?_, member, fun ranked => ?_⟩
    · have some := List.length_pos_of_mem member
      omega
    · rw [isRanked_iff.mpr ranked] at outside
      cases outside
  · cases unsorted

/-- What is chosen among qualifiers of different names leads them. -/
theorem leads_of_maximal (distinct : (qualifiers.map Qualifier.name).Nodup)
    (chosen : hierarchy.maximal qualifiers = .ok (some choice)) : hierarchy.Leads qualifiers choice := by
  obtain ⟨comparable, _⟩ := maximal_eq_ok.mp chosen
  obtain ⟨member, least⟩ := least_of_maximal chosen
  refine ⟨member, fun other listed apart => ?_⟩
  have several : qualifiers.length ≠ 1 := by
    intro single
    obtain ⟨only, rfl⟩ := List.length_eq_one_iff.mp single
    exact apart ((List.mem_singleton.mp listed).trans (List.mem_singleton.mp member).symm)
  obtain ⟨rank, ranked⟩ := exists_rank?_iff.mpr (comparable several choice member)
  obtain ⟨later, laterRanked⟩ := exists_rank?_iff.mpr (comparable several other listed)
  have ahead := least other listed
  rw [rankOrZero_eq ranked, rankOrZero_eq laterRanked] at ahead
  refine ⟨rank, later, ranked, laterRanked, Nat.lt_of_le_of_ne ahead fun same => apart ?_⟩
  subst same
  exact List.inj_on_of_nodup_map distinct listed member (rank?_injective laterRanked ranked)

/-- Among qualifiers of different names the choice falls on one exactly if it leads them. -/
theorem maximal_eq_some_iff (distinct : (qualifiers.map Qualifier.name).Nodup) :
    hierarchy.maximal qualifiers = .ok (some choice) ↔ hierarchy.Leads qualifiers choice := by
  constructor
  · exact leads_of_maximal distinct
  · intro leads
    obtain ⟨best, chosen⟩ : ∃ best, hierarchy.maximal qualifiers = .ok best :=
      ⟨_, maximal_eq_ok.mpr ⟨leads.ranked (List.Nodup.of_map _ distinct), rfl⟩⟩
    cases best with
    | none =>
      have member := leads.member
      rw [eq_nil_of_maximal chosen] at member
      cases member
    | some first => rw [chosen, (leads_of_maximal distinct chosen).unique leads]

/-- The choice is the same in whatever order the qualifiers are listed. -/
theorem Leads.maximal_of_perm (leads : hierarchy.Leads qualifiers choice)
    (distinct : (qualifiers.map Qualifier.name).Nodup) (same : others.Perm qualifiers) :
    hierarchy.maximal others = .ok (some choice) :=
  (maximal_eq_some_iff ((same.map _).nodup_iff.mpr distinct)).mpr (leads.perm same)

end Hierarchy
end SchemeTyping
