import SchemeTyping.Proofs.Extraction.Processing
import SchemeTyping.Proofs.Hierarchy.Search

/-! Rankings that agree with the subtype edges. A hierarchy relates the two in no way; where no declared
edge leads to a later name, no path does, and then no choice by rank is a subtype of what was passed
over. -/
namespace SchemeTyping
namespace Hierarchy
variable {hierarchy : Hierarchy} {first second third : String}

/-- Both names are ranked, and the second one not before the first. -/
def RanksAtLeast (hierarchy : Hierarchy) (first second : String) : Prop :=
  ∃ rank later, hierarchy.rank? first = some rank ∧ hierarchy.rank? second = some later ∧ rank ≤ later

/-- The ranking agrees with the edges: the upper end of each is ranked at least as high as the lower. -/
def Aligned (hierarchy : Hierarchy) : Prop :=
  ∀ edge ∈ hierarchy.edges, hierarchy.RanksAtLeast edge.upper edge.lower

instance (hierarchy : Hierarchy) (first second : String) :
    Decidable (hierarchy.RanksAtLeast first second) :=
  decidable_of_iff ((hierarchy.rank? first).any fun rank =>
      (hierarchy.rank? second).any fun later => decide (rank ≤ later)) (by
    simp only [RanksAtLeast, Option.any_eq_true, decide_eq_true_eq, exists_and_left])

instance (hierarchy : Hierarchy) : Decidable hierarchy.Aligned :=
  inferInstanceAs (Decidable (∀ edge ∈ hierarchy.edges, _))

/-- A qualifier that is a subtype of no other one among some. -/
def Topmost (hierarchy : Hierarchy) (qualifiers : List Qualifier) (choice : Qualifier) : Prop :=
  ∀ other ∈ qualifiers, ¬ choice.Agrees other →
    hierarchy.isSubtype choice.name other.name = .ok false

namespace RanksAtLeast

theorem refl (ranked : first ∈ hierarchy.names) : hierarchy.RanksAtLeast first first := by
  obtain ⟨rank, found⟩ := exists_rank?_iff.mpr ranked
  exact ⟨rank, rank, found, found, Nat.le_refl rank⟩

theorem trans (above : hierarchy.RanksAtLeast first second)
    (below : hierarchy.RanksAtLeast second third) : hierarchy.RanksAtLeast first third := by
  obtain ⟨rank, middle, found, here, ahead⟩ := above
  obtain ⟨again, last, there, reached, behind⟩ := below
  obtain rfl := Option.some.inj (here.symm.trans there)
  exact ⟨rank, last, found, reached, Nat.le_trans ahead behind⟩

theorem antisymm (above : hierarchy.RanksAtLeast first second)
    (below : hierarchy.RanksAtLeast second first) : first = second := by
  obtain ⟨rank, later, found, reached, ahead⟩ := above
  obtain ⟨laterAgain, rankAgain, reachedAgain, foundAgain, behind⟩ := below
  obtain rfl := Option.some.inj (found.symm.trans foundAgain)
  obtain rfl := Option.some.inj (reached.symm.trans reachedAgain)
  obtain rfl := Nat.le_antisymm ahead behind
  exact rank?_injective found reached

end RanksAtLeast

namespace Aligned

/-- Ranks do not fall along an edge, so they do not along a path. -/
theorem ranksAtLeast_of_path (aligned : hierarchy.Aligned) (path : Path hierarchy.edges first second)
    (ranked : first ∈ hierarchy.names) : hierarchy.RanksAtLeast second first := by
  induction path with
  | here => exact .refl ranked
  | step edge declared _ arrives ih =>
    subst arrives
    exact (aligned edge declared).trans ih

theorem ranksAtLeast_of_isSubtype (aligned : hierarchy.Aligned)
    (below : hierarchy.isSubtype first second = .ok true) : hierarchy.RanksAtLeast second first := by
  obtain ⟨ranked, _, path⟩ := isSubtype_eq_true_iff.mp below
  exact aligned.ranksAtLeast_of_path path ranked

theorem antisymm (aligned : hierarchy.Aligned) (below : hierarchy.isSubtype first second = .ok true)
    (above : hierarchy.isSubtype second first = .ok true) : first = second :=
  (aligned.ranksAtLeast_of_isSubtype above).antisymm (aligned.ranksAtLeast_of_isSubtype below)

/-- What is ranked before another name is no subtype of it. -/
theorem not_isSubtype (aligned : hierarchy.Aligned) (ahead : hierarchy.RanksAtLeast first second)
    (apart : first ≠ second) : hierarchy.isSubtype first second = .ok false := by
  have ranked : first ∈ hierarchy.names ∧ second ∈ hierarchy.names := by
    obtain ⟨_, _, found, reached, _⟩ := ahead
    exact ⟨exists_rank?_iff.mp ⟨_, found⟩, exists_rank?_iff.mp ⟨_, reached⟩⟩
  cases answered : hierarchy.isSubtype first second with
  | error fault =>
    rcases isSubtype_isError_iff.mp ⟨fault, answered⟩ with lower | upper
    · exact absurd ranked.1 lower
    · exact absurd ranked.2 upper
  | ok answer =>
    cases answer with
    | false => rfl
    | true => exact absurd (ahead.antisymm (aligned.ranksAtLeast_of_isSubtype answered)) apart

/-- What is chosen among ranked qualifiers is a subtype of no other one, in whatever order and however
often they are listed. -/
theorem topmost_of_maximal {qualifiers : List Qualifier} {choice : Qualifier}
    (aligned : hierarchy.Aligned)
    (ranked : ∀ qualifier ∈ qualifiers, qualifier.name ∈ hierarchy.names)
    (chosen : hierarchy.maximal qualifiers = .ok (some choice)) :
    hierarchy.Topmost qualifiers choice := by
  obtain ⟨member, least⟩ := least_of_maximal chosen
  intro other listed apart
  obtain ⟨rank, found⟩ := exists_rank?_iff.mpr (ranked choice member)
  obtain ⟨later, reached⟩ := exists_rank?_iff.mpr (ranked other listed)
  have ahead := least other listed
  rw [rankOrZero_eq found, rankOrZero_eq reached] at ahead
  exact aligned.not_isSubtype ⟨rank, later, found, reached, ahead⟩ apart

end Aligned

/-- Ranks fall along no edge exactly if they fall along no path. -/
theorem aligned_iff : hierarchy.Aligned ↔
    ∀ lower ∈ hierarchy.order, ∀ upper ∈ hierarchy.order,
      hierarchy.isSubtype lower.name upper.name = .ok true →
      hierarchy.RanksAtLeast upper.name lower.name := by
  constructor
  · intro aligned lower _ upper _ below
    exact aligned.ranksAtLeast_of_isSubtype below
  · intro all edge declared
    obtain ⟨lowerRanked, upperRanked⟩ := hierarchy.ranked edge declared
    have below : hierarchy.isSubtype edge.lower edge.upper = .ok true :=
      isSubtype_eq_true_iff.mpr ⟨lowerRanked, upperRanked, .step edge declared (.here _) rfl⟩
    obtain ⟨lower, lowerMember, lowerName⟩ := List.mem_map.mp lowerRanked
    obtain ⟨upper, upperMember, upperName⟩ := List.mem_map.mp upperRanked
    rw [← lowerName, ← upperName] at below ⊢
    exact all lower lowerMember upper upperMember below

/-- Among ranked candidates there is always a choice. -/
theorem exists_maximal {qualifiers : List Qualifier} (nonempty : qualifiers ≠ [])
    (ranked : ∀ qualifier ∈ qualifiers, qualifier.name ∈ hierarchy.names) :
    ∃ choice ∈ qualifiers, hierarchy.maximal qualifiers = .ok (some choice) := by
  obtain ⟨best, chosen, _⟩ := maximal_of_ranked ranked
  cases best with
  | none => exact absurd (eq_nil_of_maximal chosen) nonempty
  | some choice => exact ⟨choice, (least_of_maximal chosen).1, chosen⟩

/-- What processing resolves a profile of ranked candidates to. -/
theorem Processed.topmost {before after : Profile} (processed : hierarchy.Processed before after)
    (aligned : hierarchy.Aligned) (nonempty : before.candidates.members ≠ [])
    (ranked : ∀ candidate ∈ before.candidates.members, candidate.name ∈ hierarchy.names) :
    ∃ choice ∈ before.candidates.members, after.resolved = some choice ∧
      hierarchy.Topmost before.candidates.members choice := by
  cases processed with
  | bare empty => exact absurd empty nonempty
  | collapsed choice leads chosen =>
    exact ⟨choice, leads.member, rfl, aligned.topmost_of_maximal ranked (chosen _ (.refl _))⟩

/-- The ranking agrees with the declared edges exactly if no ranked qualifier stands before one that it is
a subtype of. Then two qualifiers that are subtypes of each other are one, and what is chosen among ranked
candidates, by itself or by assignment over a store, is a subtype of no other candidate. -/
theorem aligned_topmost (hierarchy : Hierarchy) :
    (hierarchy.Aligned ↔ ∀ lower ∈ hierarchy.order, ∀ upper ∈ hierarchy.order,
      hierarchy.isSubtype lower.name upper.name = .ok true →
      hierarchy.RanksAtLeast upper.name lower.name) ∧
    (hierarchy.Aligned →
      (∀ lower upper : Qualifier, hierarchy.isSubtype lower.name upper.name = .ok true →
        hierarchy.isSubtype upper.name lower.name = .ok true → lower.Agrees upper) ∧
      (∀ candidates : List Qualifier, candidates ≠ [] →
        (∀ candidate ∈ candidates, candidate.name ∈ hierarchy.names) →
        ∃ choice ∈ candidates, hierarchy.maximal candidates = .ok (some choice) ∧
          hierarchy.Topmost candidates choice) ∧
      ∀ (typing after : Typing) (store : Store) (ending : Option Failure),
        hierarchy.assignAll typing store.references = (after, ending) →
        ∃ processed rest, store.references = processed ++ rest ∧ (ending = none → rest = []) ∧
          (∀ reference ∈ rest, after.profile reference = typing.profile reference) ∧
          ∀ reference ∈ processed, (typing.profile reference).candidates.members ≠ [] →
            (∀ candidate ∈ (typing.profile reference).candidates.members,
              candidate.name ∈ hierarchy.names) →
            ∃ choice ∈ (typing.profile reference).candidates.members,
              (after.profile reference).resolved = some choice ∧
              hierarchy.Topmost (typing.profile reference).candidates.members choice) := by
  refine ⟨aligned_iff, fun aligned => ⟨fun _ _ => aligned.antisymm, ?_, ?_⟩⟩
  · intro candidates nonempty ranked
    obtain ⟨choice, member, chosen⟩ := exists_maximal nonempty ranked
    exact ⟨choice, member, chosen, aligned.topmost_of_maximal ranked chosen⟩
  · intro typing after store ending assigned
    obtain ⟨processed, rest, split, done, kept, completes, _⟩ := assignAll_processes assigned
    refine ⟨processed, rest, split, completes, fun reference member => kept _ ?_, ?_⟩
    · obtain ⟨before, later, rfl⟩ := List.append_of_mem member
      rw [← List.append_assoc] at split
      intro inside
      refine Store.fresh_of_split split ?_
      rw [List.map_append]
      exact List.mem_append_left _ inside
    · intro reference member
      exact (done reference member).2.topmost aligned

/-- The schemes are ranked as their edges lead, and each is a subtype of random encryption. -/
theorem aligned_topmost_schemes : schemes.Aligned ∧
    (∃ choice ∈ schemes.order, schemes.maximal schemes.order = .ok (some choice) ∧
      schemes.Topmost schemes.order choice) ∧
    schemes.isSubtype "RND" "CLEAR" = .ok false := by
  have aligned : schemes.Aligned := by decide
  obtain ⟨_, choices, _⟩ := (aligned_topmost schemes).2 aligned
  refine ⟨aligned, choices schemes.order (by decide) (by decide), ?_⟩
  exact aligned.not_isSubtype (by decide) (by decide)

end Hierarchy
end SchemeTyping
