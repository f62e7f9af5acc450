import SchemeTyping.Hierarchy.Subtype

/-! Growing along the edges finds exactly the names at the end of a path, so the subtype test decides
whether there is a path of zero or more edges. -/
namespace SchemeTyping
namespace Hierarchy

/-- What holds while names grow from a start along all edges: every reached name has a path from the
start; an edge that is not left leads from a reached name; and an edge from a reached name has been
followed unless it leads from the frontier and is left. -/
structure Growing (all : List Edge) (start : String) (reached frontier : List String)
    (left : List Edge) : Prop where
  origin : start ∈ reached
  sound : ∀ name ∈ reached, Path all start name
  inner : ∀ name ∈ frontier, name ∈ reached
  declared : ∀ edge ∈ left, edge ∈ all
  dropped : ∀ edge ∈ all, edge ∉ left → edge.lower ∈ reached
  followed : ∀ edge ∈ all, edge.lower ∈ reached →
    edge.upper ∈ reached ∨ edge ∈ left ∧ edge.lower ∈ frontier

theorem mem_fresh {name : String} {reached frontier : List String} {edges : List Edge} :
    name ∈ fresh reached frontier edges ↔
      name ∉ reached ∧ ∃ edge ∈ edges, edge.lower ∈ frontier ∧ edge.upper = name := by
  simp only [fresh, leadsFrom, List.mem_filter, List.mem_map, and_assoc, Bool.not_eq_true',
    List.contains_eq_mem, decide_eq_false_iff_not, decide_eq_true_eq]
  exact and_comm

theorem mem_beyond {edge : Edge} {frontier : List String} {edges : List Edge} :
    edge ∈ beyond frontier edges ↔ edge ∈ edges ∧ edge.lower ∉ frontier := by
  simp [beyond, leadsFrom]

theorem Growing.initial (all : List Edge) (start : String) :
    Growing all start [start] [start] all where
  origin := List.mem_singleton_self start
  sound := by
    intro name member
    rw [List.mem_singleton.mp member]
    exact .here start
  inner := fun _ member => member
  declared := fun _ member => member
  dropped := fun edge member gone => absurd member gone
  followed := fun edge member reached => .inr ⟨member, reached⟩

theorem Growing.next {all left : List Edge} {start : String} {reached frontier : List String}
    (growing : Growing all start reached frontier left) :
    Growing all start (fresh reached frontier left ++ reached) (fresh reached frontier left)
      (beyond frontier left) where
  origin := List.mem_append_right _ growing.origin
  sound := by
    intro name member
    rcases List.mem_append.mp member with new | old
    · obtain ⟨_, edge, present, leads, same⟩ := mem_fresh.mp new
      exact .step edge (growing.declared edge present)
        (growing.sound _ (growing.inner _ leads)) same
    · exact growing.sound name old
  inner := fun _ member => List.mem_append_left _ member
  declared := fun edge member => growing.declared edge (mem_beyond.mp member).1
  dropped := by
    intro edge member gone
    by_cases present : edge ∈ left
    · have leads : edge.lower ∈ frontier :=
        Decidable.byContradiction fun apart => gone (mem_beyond.mpr ⟨present, apart⟩)
      exact List.mem_append_right _ (growing.inner _ leads)
    · exact List.mem_append_right _ (growing.dropped edge member present)
  followed := by
    intro edge member lower
    by_cases old : edge.lower ∈ reached
    · rcases growing.followed edge member old with upper | ⟨present, leads⟩
      · exact .inl (List.mem_append_right _ upper)
      · left
        by_cases known : edge.upper ∈ reached
        · exact List.mem_append_right _ known
        · exact List.mem_append_left _ (mem_fresh.mpr ⟨known, edge, present, leads, rfl⟩)
    · right
      -- An edge from a name that has just come in was never followed, so it is left.
      have present : edge ∈ left :=
        Decidable.byContradiction fun gone => old (growing.dropped edge member gone)
      have new : edge.lower ∈ fresh reached frontier left :=
        (List.mem_append.mp lower).resolve_right old
      exact ⟨mem_beyond.mpr ⟨present, fun leads => old (growing.inner _ leads)⟩, new⟩

theorem Growing.covers {all left : List Edge} {start name : String}
    {reached frontier : List String} (growing : Growing all start reached frontier left)
    (done : ¬ left.any (leadsFrom frontier) = true) (path : Path all start name) :
    name ∈ reached := by
  induction path with
  | here => exact growing.origin
  | step edge member _ arrives ih =>
    subst arrives
    rcases growing.followed edge member ih with upper | ⟨present, leads⟩
    · exact upper
    · exact absurd (List.any_eq_true.mpr ⟨edge, present, by simpa [leadsFrom] using leads⟩) done

theorem mem_grow {all left : List Edge} {start name : String} {reached frontier : List String}
    (growing : Growing all start reached frontier left) :
    name ∈ grow reached frontier left ↔ Path all start name := by
  fun_induction grow reached frontier left with
  | case1 reached frontier left leads ih => exact ih growing.next
  | case2 reached frontier left done => exact ⟨growing.sound name, growing.covers done⟩

theorem mem_supertypes {hierarchy : Hierarchy} {lower upper : String} :
    upper ∈ hierarchy.supertypes lower ↔ Path hierarchy.edges lower upper :=
  mem_grow (.initial hierarchy.edges lower)

/-- Paths can be looked for by growing. -/
instance (edges : List Edge) (lower upper : String) : Decidable (Path edges lower upper) :=
  decidable_of_iff (upper ∈ grow [lower] [lower] edges) (mem_grow (.initial edges lower))

/-- Paths stay when edges are added. -/
theorem Path.mono {edges others : List Edge} {lower upper : String} (among : edges ⊆ others)
    (path : Path edges lower upper) : Path others lower upper := by
  induction path with
  | here => exact .here _
  | step edge member _ arrives ih => exact .step edge (among member) ih arrives

theorem get_of_mem {hierarchy : Hierarchy} {qualifier : Qualifier}
    (member : qualifier ∈ hierarchy.order) : ∃ found, hierarchy.get qualifier.name = .ok found := by
  cases found : hierarchy.find? qualifier.name with
  | some ranked => exact ⟨ranked, by simp [get, found]⟩
  | none => exact absurd (List.find?_eq_none.mp found qualifier member) (by simp)

/-- Between ranked qualifiers the subtype test answers whether there is a path. -/
theorem isSubtype_eq {hierarchy : Hierarchy} {lower upper : Qualifier}
    (lowerRanked : lower ∈ hierarchy.order) (upperRanked : upper ∈ hierarchy.order) :
    hierarchy.isSubtype lower.name upper.name =
      .ok (decide (Path hierarchy.edges lower.name upper.name)) := by
  obtain ⟨_, foundUpper⟩ := get_of_mem upperRanked
  obtain ⟨_, foundLower⟩ := get_of_mem lowerRanked
  simp only [isSubtype, foundUpper, foundLower, mem_supertypes]

theorem mem_names_of_get {hierarchy : Hierarchy} {name : String} {qualifier : Qualifier}
    (found : hierarchy.get name = .ok qualifier) : name ∈ hierarchy.names := by
  unfold get at found
  split at found
  · next ranked known =>
    exact List.mem_map.mpr ⟨ranked, List.mem_of_find?_eq_some known, by simpa using List.find?_some known⟩
  · cases found

/-- The subtype test answers between ranked names only. -/
theorem isSubtype_eq_ok {hierarchy : Hierarchy} {lower upper : String} {answer : Bool}
    (answered : hierarchy.isSubtype lower upper = .ok answer) :
    upper ∈ hierarchy.names ∧ lower ∈ hierarchy.names ∧
      answer = decide (Path hierarchy.edges lower upper) := by
  unfold isSubtype at answered
  split at answered
  · cases answered
  · next foundUpper =>
    split at answered
    · cases answered
    · next foundLower =>
      refine ⟨mem_names_of_get foundUpper, mem_names_of_get foundLower, ?_⟩
      simpa only [mem_supertypes] using (Except.ok.inj answered).symm

theorem get_eq_error {hierarchy : Hierarchy} {name : String} {fault : Fault} :
    hierarchy.get name = .error fault ↔ name ∉ hierarchy.names ∧ fault = .unknown name := by
  have absent : hierarchy.find? name = none ↔ name ∉ hierarchy.names := by
    simp only [find?, List.find?_eq_none, names, List.mem_map, beq_iff_eq, not_exists, not_and]
  rw [← absent]
  unfold get
  cases hierarchy.find? name with
  | none => simp [eq_comm]
  | some qualifier => simp

/-- The subtype test fails on a name that is not ranked; the upper one is looked up first. -/
theorem isSubtype_eq_error {hierarchy : Hierarchy} {lower upper : String} {fault : Fault} :
    hierarchy.isSubtype lower upper = .error fault ↔
      upper ∉ hierarchy.names ∧ fault = .unknown upper ∨
        upper ∈ hierarchy.names ∧ lower ∉ hierarchy.names ∧ fault = .unknown lower := by
  unfold isSubtype
  split
  · next other failed =>
    obtain ⟨unranked, rfl⟩ := get_eq_error.mp failed
    simp [unranked, eq_comm]
  · next found =>
    have ranked := mem_names_of_get found
    split
    · next other failed =>
      obtain ⟨unranked, rfl⟩ := get_eq_error.mp failed
      simp [ranked, unranked, eq_comm]
    · next foundLower => simp [ranked, mem_names_of_get foundLower]

end Hierarchy
end SchemeTyping
