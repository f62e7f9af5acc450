import SchemeTyping.Hierarchy.Basic
import SchemeTyping.Proofs.Outcome

/-! Building keeps what a hierarchy is built from: its names stand in the order in which they were
given, and no edge is added or dropped. Once all names of a draft are ranked, only a name that comes
twice in the order can stop it; so a draft is refused exactly if a name or a part of it is missing, or a
name comes twice. -/
namespace SchemeTyping
namespace Hierarchy

theorem make?_eq_some {name qualified : String} {qualifier : Qualifier}
    (made : Qualifier.make? name qualified = some qualifier) : qualifier.name = name := by
  unfold Qualifier.make? at made
  split at made
  · exact (congrArg Qualifier.name (Option.some.inj made)).symm
  · cases made

/-- Ranking adds the names behind those ranked already. -/
theorem rankAll_eq_ok {rest : List (String × String)}
    {ranked result : { order : List Qualifier // (order.map Qualifier.name).Nodup }}
    (done : rankAll ranked rest = .ok result) :
    result.1.map Qualifier.name = ranked.1.map Qualifier.name ++ rest.map Prod.fst := by
  induction rest generalizing ranked with
  | nil =>
    obtain rfl := Except.ok.inj done
    simp
  | cons entry rest ih =>
    unfold rankAll at done
    split at done
    · cases done
    · next qualifier made =>
      split at done
      · cases done
      · have later := ih done
        simpa [make?_eq_some made] using later

theorem bindEdges_eq_ok {names : List String} {edges : List Edge}
    {result : { edges : List Edge // ∀ edge ∈ edges, edge.lower ∈ names ∧ edge.upper ∈ names }}
    (done : bindEdges names edges = .ok result) : result.1 = edges := by
  induction edges generalizing result with
  | nil =>
    obtain rfl := Except.ok.inj done
    rfl
  | cons edge rest ih =>
    unfold bindEdges at done
    split at done
    · split at done
      · obtain ⟨later, bound, rfl⟩ := Outcome.map_eq_ok.mp done
        exact congrArg (edge :: ·) (ih bound)
      · cases done
    · cases done

/-- Ranking stops at an empty name, or at one that comes twice. -/
theorem rankAll_eq_error {rest : List (String × String)}
    {ranked : { order : List Qualifier // (order.map Qualifier.name).Nodup }} {fault : Fault}
    (failed : rankAll ranked rest = .error fault) :
    (∃ entry ∈ rest, entry.1 = "") ∨ ∃ name, fault = .rankedTwice name ∧
      1 < (ranked.1.map Qualifier.name ++ rest.map Prod.fst).count name := by
  induction rest generalizing ranked with
  | nil => cases failed
  | cons entry rest ih =>
    unfold rankAll at failed
    split at failed
    · next unnamed =>
      left
      exact ⟨entry, List.mem_cons_self, by simpa [Qualifier.make?] using unnamed⟩
    · next qualifier made =>
      have own := make?_eq_some made
      split at failed
      · next known =>
        right
        refine ⟨entry.1, (Except.error.inj failed).symm, ?_⟩
        have present : 0 < (ranked.1.map Qualifier.name).count entry.1 :=
          List.count_pos_iff.mpr (own ▸ known)
        rw [List.count_append, List.map_cons, List.count_cons_self]
        omega
      · rcases ih failed with ⟨empty, member, nameless⟩ | ⟨name, same, twice⟩
        · exact .inl ⟨empty, List.mem_cons_of_mem _ member, nameless⟩
        · exact .inr ⟨name, same, by simpa [own] using twice⟩

theorem bindEdges_of_ranked {names : List String} {edges : List Edge}
    (ranked : ∀ edge ∈ edges, edge.lower ∈ names ∧ edge.upper ∈ names) :
    ∃ result, bindEdges names edges = .ok result := by
  induction edges with
  | nil => exact ⟨_, rfl⟩
  | cons edge rest ih =>
    obtain ⟨lower, upper⟩ := ranked edge List.mem_cons_self
    obtain ⟨later, bound⟩ := ih fun other member => ranked other (List.mem_cons_of_mem _ member)
    unfold bindEdges
    rw [dif_pos lower, dif_pos upper, bound]
    exact ⟨_, rfl⟩

/-- A draft that names only what it ranks. -/
structure Draft.Closed (draft : Draft) : Prop where
  ordered : draft.order ≠ []
  named : ∀ entry ∈ draft.order, entry.1 ≠ ""
  edges : ∀ edge ∈ draft.edges,
    edge.lower ∈ draft.order.map Prod.fst ∧ edge.upper ∈ draft.order.map Prod.fst
  based : ∃ name ∈ draft.baseline, name ∈ draft.order.map Prod.fst

/-- A closed draft is built unless a name comes twice in its order. -/
theorem Draft.Closed.built_or_repeated {draft : Draft} (closed : draft.Closed) :
    (∃ hierarchy, build draft = .ok hierarchy) ∨ ∃ name,
      build draft = .error (.rankedTwice name) ∧ 1 < (draft.order.map Prod.fst).count name := by
  obtain ⟨baseline, given, ranked⟩ := closed.based
  unfold Hierarchy.build
  rw [if_neg closed.ordered]
  cases done : rankAll ⟨[], List.nodup_nil⟩ draft.order with
  | error fault =>
    right
    rcases rankAll_eq_error done with ⟨entry, member, nameless⟩ | ⟨name, rfl, twice⟩
    · exact absurd nameless (closed.named entry member)
    · exact ⟨name, rfl, twice⟩
  | ok result =>
    left
    obtain ⟨order, distinct⟩ := result
    have names : order.map Qualifier.name = draft.order.map Prod.fst :=
      (rankAll_eq_ok done).trans (List.nil_append _)
    obtain ⟨edges, bound⟩ := bindEdges_of_ranked (names ▸ closed.edges)
    have found : ∃ qualifier, order.find? (·.name == baseline) = some qualifier := by
      refine Option.isSome_iff_exists.mp (List.find?_isSome.mpr ?_)
      obtain ⟨qualifier, member, own⟩ := List.mem_map.mp (names ▸ ranked)
      exact ⟨qualifier, member, by simpa using own⟩
    obtain ⟨qualifier, found⟩ := found
    simp only [bound, Option.mem_def.mp given]
    split
    · next missing => simp [found] at missing
    · exact ⟨_, rfl⟩

/-- The baseline of a hierarchy is the one that its draft names. -/
theorem baseline_of_build {draft : Draft} {hierarchy : Hierarchy}
    (built : Hierarchy.build draft = .ok hierarchy) :
    draft.baseline = some hierarchy.baseline.name := by
  unfold Hierarchy.build at built
  split at built
  · cases built
  · split at built
    · cases built
    · split at built
      · cases built
      · split at built
        · cases built
        · next named =>
          split at built
          · cases built
          · next found =>
            obtain rfl := Except.ok.inj built
            have own := List.find?_some found
            rw [named, beq_iff_eq.mp own]

/-- A hierarchy has the names and the edges of its draft. -/
theorem build_eq_ok {draft : Draft} {hierarchy : Hierarchy} (built : build draft = .ok hierarchy) :
    hierarchy.names = draft.order.map Prod.fst ∧ hierarchy.edges = draft.edges := by
  unfold build at built
  split at built
  · cases built
  · split at built
    · cases built
    · next order distinct ranked =>
      split at built
      · cases built
      · next edges _ bound =>
        split at built
        · cases built
        · split at built
          · cases built
          · obtain rfl := Except.ok.inj built
            exact ⟨(rankAll_eq_ok ranked).trans (List.nil_append _), bindEdges_eq_ok bound⟩

/-- What keeps a draft from being built. -/
inductive Draft.Faulty (draft : Draft) : Prop where
  | empty (bare : draft.order = [])
  | unnamed (entry : String × String) (listed : entry ∈ draft.order) (nameless : entry.1 = "")
  | repeated (twice : ¬ (draft.order.map Prod.fst).Nodup)
  | unranked (edge : Edge) (declared : edge ∈ draft.edges)
      (outside : edge.lower ∉ draft.order.map Prod.fst ∨ edge.upper ∉ draft.order.map Prod.fst)
  | baseless (missing : draft.baseline = none)
  | unbased (name : String) (given : draft.baseline = some name)
      (outside : name ∉ draft.order.map Prod.fst)

/-- Nothing is wrong with a draft from which a hierarchy was built. -/
theorem not_faulty_of_build {draft : Draft} {hierarchy : Hierarchy}
    (built : build draft = .ok hierarchy) : ¬ draft.Faulty := by
  obtain ⟨names, edges⟩ := build_eq_ok built
  have baseline := baseline_of_build built
  intro faulty
  cases faulty with
  | empty bare =>
    rw [bare] at names
    exact absurd hierarchy.based (by simp [List.map_eq_nil_iff.mp names])
  | unnamed entry listed nameless =>
    have ranked : entry.1 ∈ hierarchy.names := names ▸ List.mem_map_of_mem listed
    obtain ⟨qualifier, _, own⟩ := List.mem_map.mp ranked
    exact qualifier.named (own.trans nameless)
  | repeated twice => exact twice (names ▸ hierarchy.distinct)
  | unranked edge declared outside =>
    obtain ⟨lower, upper⟩ := hierarchy.ranked edge (edges ▸ declared)
    rcases outside with below | above
    · exact below (names ▸ lower)
    · exact above (names ▸ upper)
  | baseless missing =>
    rw [missing] at baseline
    cases baseline
  | unbased name given outside =>
    obtain rfl := Option.some.inj (given.symm.trans baseline)
    exact outside (names ▸ List.mem_map_of_mem hierarchy.based)

/-- A draft with which nothing is wrong names only what it ranks. -/
theorem Draft.closed_of_not_faulty {draft : Draft} (sound : ¬ draft.Faulty) : draft.Closed where
  ordered bare := sound (.empty bare)
  named entry listed nameless := sound (.unnamed entry listed nameless)
  edges edge declared := by
    constructor
    · exact Decidable.byContradiction fun below => sound (.unranked edge declared (.inl below))
    · exact Decidable.byContradiction fun above => sound (.unranked edge declared (.inr above))
  based := by
    cases given : draft.baseline with
    | none => exact absurd (.baseless given) sound
    | some name =>
      exact ⟨name, rfl, Decidable.byContradiction fun outside => sound (.unbased name given outside)⟩

/-- A draft is refused exactly if something is wrong with it. -/
theorem build_isError_iff {draft : Draft} :
    (∃ fault, build draft = .error fault) ↔ draft.Faulty := by
  constructor
  · rintro ⟨fault, refused⟩
    apply Classical.byContradiction
    intro sound
    rcases (Draft.closed_of_not_faulty sound).built_or_repeated with
      ⟨hierarchy, built⟩ | ⟨name, _, twice⟩
    · rw [built] at refused
      cases refused
    · refine sound (.repeated fun distinct => ?_)
      have once := List.nodup_iff_count.mp distinct name
      omega
  · intro faulty
    cases built : build draft with
    | error fault => exact ⟨fault, rfl⟩
    | ok hierarchy => exact absurd faulty (not_faulty_of_build built)

end Hierarchy
end SchemeTyping
