import SchemeTyping.Hierarchy.Ranking
import SchemeTyping.Proofs.Outcome

/-! The most preferred of some ranked qualifiers is the one whose name stands earliest in the order. -/
namespace SchemeTyping
namespace Hierarchy

/-- The first of some names in an order. -/
def leader? (order names : List String) : Option String := order.find? fun name => name ∈ names

theorem leader?_of_least {order names : List String} {name : String}
    (ranked : ∀ other ∈ names, other ∈ order) (member : name ∈ names)
    (least : ∀ other ∈ names, (order.idxOf? name).getD 0 ≤ (order.idxOf? other).getD 0) :
    leader? order names = some name := by
  induction order with
  | nil => exact absurd (ranked name member) List.not_mem_nil
  | cons head rest ih =>
    by_cases chosen : head ∈ names
    · have first : name = head := by
        have bound := least head chosen
        by_cases same : head = name
        · exact same.symm
        · have inside : name ∈ rest :=
            (List.mem_cons.mp (ranked name member)).resolve_left (Ne.symm same)
          obtain ⟨rank, found⟩ := Option.isSome_iff_exists.mp (List.isSome_idxOf?.mpr inside)
          simp [List.idxOf?_cons, same, found] at bound
      simp [leader?, first, chosen]
    · have apart : ∀ other ∈ names, head ≠ other := fun other present same =>
        chosen (same ▸ present)
      have inside : ∀ other ∈ names, other ∈ rest := fun other present =>
        (List.mem_cons.mp (ranked other present)).resolve_left (apart other present).symm
      have later : leader? rest names = some name := by
        refine ih inside fun other present => ?_
        have bound := least other present
        obtain ⟨rank, found⟩ := Option.isSome_iff_exists.mp
          (List.isSome_idxOf?.mpr (inside name member))
        obtain ⟨_, otherFound⟩ := Option.isSome_iff_exists.mp
          (List.isSome_idxOf?.mpr (inside other present))
        simp only [List.idxOf?_cons, beq_iff_eq, apart name member, apart other present,
          found, otherFound, if_false, Option.map_some, Option.getD_some] at bound ⊢
        omega
      simpa [leader?, chosen] using later

/-- Which name leads depends on the names alone, not on their order or repetition. -/
theorem leader?_congr {order first second : List String}
    (same : ∀ name, name ∈ first ↔ name ∈ second) : leader? order first = leader? order second := by
  simp only [leader?, same]

theorem leader?_eq_none {order names : List String} (ranked : ∀ name ∈ names, name ∈ order) :
    leader? order names = none ↔ names = [] := by
  simp only [leader?, List.find?_eq_none, decide_eq_true_eq]
  constructor
  · intro absent
    exact List.eq_nil_iff_forall_not_mem.mpr fun name member =>
      absent name (ranked name member) member
  · intro empty name _
    simp [empty]

theorem isRanked_iff {hierarchy : Hierarchy} {qualifier : Qualifier} :
    hierarchy.isRanked qualifier = true ↔ qualifier.name ∈ hierarchy.names :=
  List.isSome_idxOf?

/-- The comparison by which ranked qualifiers are sorted. -/
def precedes (hierarchy : Hierarchy) (first second : Qualifier) : Bool :=
  decide (hierarchy.rankOrZero first ≤ hierarchy.rankOrZero second)

/-- Qualifiers that can be sorted. They are ranked, unless one stands alone and is compared with nothing. -/
def Comparable (hierarchy : Hierarchy) (qualifiers : List Qualifier) : Prop :=
  qualifiers.length ≠ 1 → ∀ qualifier ∈ qualifiers, qualifier.name ∈ hierarchy.names

theorem unranked?_eq_none {hierarchy : Hierarchy} {qualifiers : List Qualifier} :
    hierarchy.unranked? qualifiers = none ↔ hierarchy.Comparable qualifiers := by
  simp only [unranked?, List.find?_eq_none, Runs.mem_readOrder, Bool.not_eq_true', Bool.not_eq_false,
    isRanked_iff, Comparable]
  constructor
  · intro all several qualifier member
    exact all qualifier ⟨member, several⟩
  · rintro all qualifier ⟨member, several⟩
    exact all several qualifier member

theorem sort_eq_ok {hierarchy : Hierarchy} {qualifiers sorted : List Qualifier} :
    hierarchy.sort qualifiers = .ok sorted ↔
      hierarchy.Comparable qualifiers ∧ qualifiers.mergeSort hierarchy.precedes = sorted := by
  rw [← unranked?_eq_none]
  unfold sort
  cases hierarchy.unranked? qualifiers with
  | none => exact ⟨fun same => ⟨rfl, Except.ok.inj same⟩, fun both => congrArg Except.ok both.2⟩
  | some qualifier => exact iff_of_false (fun same => by cases same) (fun both => by cases both.1)

/-- The choice is the first one in the sorted list. -/
theorem maximal_eq_ok {hierarchy : Hierarchy} {qualifiers : List Qualifier} {choice : Option Qualifier} :
    hierarchy.maximal qualifiers = .ok choice ↔
      hierarchy.Comparable qualifiers ∧ (qualifiers.mergeSort hierarchy.precedes).head? = choice := by
  simp only [maximal, Outcome.map_eq_ok, sort_eq_ok]
  constructor
  · rintro ⟨sorted, ⟨comparable, rfl⟩, first⟩
    exact ⟨comparable, first⟩
  · rintro ⟨comparable, first⟩
    exact ⟨_, ⟨comparable, rfl⟩, first⟩

theorem pairwise_precedes (hierarchy : Hierarchy) (qualifiers : List Qualifier) :
    (qualifiers.mergeSort hierarchy.precedes).Pairwise fun first second =>
      hierarchy.rankOrZero first ≤ hierarchy.rankOrZero second := by
  have ordered : (qualifiers.mergeSort hierarchy.precedes).Pairwise fun first second =>
      hierarchy.precedes first second = true := by
    refine List.pairwise_mergeSort (fun first second third below above => ?_)
      (fun first second => ?_) qualifiers
    · simp only [precedes, decide_eq_true_eq] at below above ⊢
      exact Nat.le_trans below above
    · simp only [precedes, Bool.or_eq_true, decide_eq_true_eq]
      exact Nat.le_total _ _
  simpa only [precedes, decide_eq_true_eq] using ordered

theorem least_of_mergeSort {hierarchy : Hierarchy} {qualifiers rest : List Qualifier}
    {first : Qualifier} (sorted : qualifiers.mergeSort hierarchy.precedes = first :: rest) :
    first ∈ qualifiers ∧
      ∀ other ∈ qualifiers, hierarchy.rankOrZero first ≤ hierarchy.rankOrZero other := by
  have members : ∀ other, other ∈ first :: rest ↔ other ∈ qualifiers := by
    intro other
    rw [← sorted]
    exact List.mem_mergeSort
  refine ⟨(members first).mp List.mem_cons_self, fun other member => ?_⟩
  have ordered := hierarchy.pairwise_precedes qualifiers
  rw [sorted] at ordered
  rcases List.mem_cons.mp ((members other).mpr member) with same | later
  · exact same ▸ Nat.le_refl _
  · exact (List.pairwise_cons.mp ordered).1 other later

/-- What is chosen is one of the qualifiers, and no other one has a lower rank. -/
theorem least_of_maximal {hierarchy : Hierarchy} {qualifiers : List Qualifier} {choice : Qualifier}
    (chosen : hierarchy.maximal qualifiers = .ok (some choice)) : choice ∈ qualifiers ∧
      ∀ other ∈ qualifiers, hierarchy.rankOrZero choice ≤ hierarchy.rankOrZero other := by
  obtain ⟨rest, sorted⟩ := List.head?_eq_some_iff.mp (maximal_eq_ok.mp chosen).2
  exact least_of_mergeSort sorted

/-- Only among no candidates is there nothing to choose. -/
theorem eq_nil_of_maximal {hierarchy : Hierarchy} {qualifiers : List Qualifier}
    (unchosen : hierarchy.maximal qualifiers = .ok none) : qualifiers = [] := by
  have empty := congrArg List.length (List.head?_eq_none_iff.mp (maximal_eq_ok.mp unchosen).2)
  rw [List.length_mergeSort] at empty
  exact List.length_eq_zero_iff.mp empty

/-- Among ranked qualifiers the choice never fails, and it falls on a member whose name leads the
order. -/
theorem maximal_of_ranked {hierarchy : Hierarchy} {qualifiers : List Qualifier}
    (ranked : ∀ qualifier ∈ qualifiers, qualifier.name ∈ hierarchy.names) :
    ∃ choice, hierarchy.maximal qualifiers = .ok choice ∧
      (∀ qualifier ∈ choice, qualifier ∈ qualifiers) ∧
      choice.map Qualifier.name =
        leader? hierarchy.names (qualifiers.map Qualifier.name) := by
  have rankedNames : ∀ name ∈ qualifiers.map Qualifier.name, name ∈ hierarchy.names := by
    intro name member
    obtain ⟨qualifier, present, same⟩ := List.mem_map.mp member
    exact same ▸ ranked qualifier present
  obtain ⟨choice, chosen⟩ : ∃ choice, hierarchy.maximal qualifiers = .ok choice :=
    ⟨_, maximal_eq_ok.mpr ⟨fun _ => ranked, rfl⟩⟩
  refine ⟨choice, chosen, ?_⟩
  cases choice with
  | none =>
    rw [eq_nil_of_maximal chosen]
    exact ⟨fun _ member => absurd member (Option.not_mem_none _), ((leader?_eq_none (by simp)).mpr rfl).symm⟩
  | some first =>
    obtain ⟨member, least⟩ := least_of_maximal chosen
    refine ⟨fun other same => Option.some.inj same ▸ member,
      (leader?_of_least rankedNames (List.mem_map.mpr ⟨first, member, rfl⟩) ?_).symm⟩
    intro name present
    obtain ⟨other, otherMember, same⟩ := List.mem_map.mp present
    exact same ▸ least other otherMember

end Hierarchy
end SchemeTyping
