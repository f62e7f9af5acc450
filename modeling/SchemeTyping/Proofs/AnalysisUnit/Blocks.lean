import SchemeTyping.Proofs.AnalysisUnit.Verdict
import SchemeTyping.Proofs.AnalysisUnit.Written

/-! Hierarchy blocks: which of them can be bound. A block that is refused at its very end repeats a name
in its order, and every earlier refusal is about a statement or a name that is missing. -/
namespace SchemeTyping.AnalysisUnit

/-- A block from which a hierarchy can be built: orders without repetition and a baseline, and no name
that they do not rank. -/
structure HierarchyDeclaration.WellFormed (block : HierarchyDeclaration) : Prop where
  ordered : block.ordered = true
  distinct : (block.order.map Mention.name).Nodup
  edges : ∀ edge ∈ block.edges,
    edge.lower ∈ block.order.map Mention.name ∧ edge.upper ∈ block.order.map Mention.name
  based : ∃ baseline ∈ block.baseline, baseline.name ∈ block.order.map Mention.name

namespace HierarchyDeclaration
variable {block : HierarchyDeclaration} {located : Located} {fault : BindingFault} {token : Token}
  {offset : Nat}

/-- The draft that a block with a baseline is built from. -/
def draft (block : HierarchyDeclaration) (baseline : Mention) : Hierarchy.Draft where
  order := (block.order.map Mention.name).map fun name => (name, "")
  edges := block.edges.map fun edge => ⟨edge.lower, edge.upper⟩
  baseline := some baseline.name

theorem names_draft (block : HierarchyDeclaration) (baseline : Mention) :
    (block.draft baseline).order.map Prod.fst = block.order.map Mention.name := by
  simp [draft]

/-- The first name that an edge of a block does not find in its order. -/
def unranked? (block : HierarchyDeclaration) : Option (String × Nat) :=
  block.edges.findSome? fun edge =>
    if edge.lower ∉ block.order.map Mention.name then some (edge.lower, edge.offset)
    else if edge.upper ∉ block.order.map Mention.name then some (edge.upper, edge.offset)
    else none

theorem unranked?_eq_none : block.unranked? = none ↔ ∀ edge ∈ block.edges,
    edge.lower ∈ block.order.map Mention.name ∧ edge.upper ∈ block.order.map Mention.name := by
  unfold unranked?
  rw [List.findSome?_eq_none_iff]
  refine forall₂_congr fun edge _ => ?_
  by_cases lower : edge.lower ∈ block.order.map Mention.name
  · by_cases upper : edge.upper ∈ block.order.map Mention.name
    · simp [lower, upper]
    · simp [lower, upper]
  · simp [lower]

/-- Binding tests the statements, then the edges, then the baseline, and builds only what passed. -/
theorem bind_eq (block : HierarchyDeclaration) : block.bind =
    if !block.ordered || block.order.isEmpty then .error ⟨.orderMissing, block.offset⟩
    else
      match block.baseline with
      | none => .error ⟨.baselineMissing, block.offset⟩
      | some baseline =>
        match block.unranked? with
        | some (name, offset) => .error ⟨.edgeUnranked name, offset⟩
        | none =>
          if baseline.name ∉ block.order.map Mention.name then
            .error ⟨.baselineUnranked baseline.name, baseline.offset⟩
          else
            (Hierarchy.build (block.draft baseline)).mapError fun fault =>
              ⟨.hierarchyInvalid fault, block.offset⟩ :=
  rfl

theorem closed_draft (written : block.Written) {baseline : Mention} (listed : block.order ≠ [])
    (edges : block.unranked? = none)
    (based : baseline.name ∈ block.order.map Mention.name) : (block.draft baseline).Closed where
  ordered := by simpa [draft] using listed
  named := by
    intro entry member
    simp only [draft, List.map_map, List.mem_map, Function.comp_apply] at member
    obtain ⟨mention, present, rfl⟩ := member
    exact written.named mention present
  edges := by
    intro edge member
    rw [names_draft]
    obtain ⟨declared, present, rfl⟩ := List.mem_map.mp member
    exact unranked?_eq_none.mp edges declared present
  based := ⟨baseline.name, rfl, by rwa [names_draft]⟩

/-- A draft from which a hierarchy is built passes the tests that come before. -/
theorem ranked_of_build {baseline : Mention} {hierarchy : Hierarchy}
    (built : Hierarchy.build (block.draft baseline) = .ok hierarchy) :
    block.order ≠ [] ∧ block.unranked? = none ∧ baseline.name ∈ block.order.map Mention.name := by
  have closed := Hierarchy.Draft.closed_of_not_faulty (Hierarchy.not_faulty_of_build built)
  refine ⟨by simpa [draft] using closed.ordered, unranked?_eq_none.mpr fun edge declared => ?_, ?_⟩
  · rw [← names_draft block baseline]
    exact closed.edges ⟨edge.lower, edge.upper⟩ (List.mem_map_of_mem declared)
  · obtain ⟨name, named, ranked⟩ := closed.based
    obtain rfl := Option.some.inj named
    rwa [names_draft] at ranked

/-- A block with an order is bound to what is built from its draft. -/
theorem bind_eq_ok_iff {hierarchy : Hierarchy} : block.bind = .ok hierarchy ↔ block.ordered = true ∧
    ∃ baseline, block.baseline = some baseline ∧
      Hierarchy.build (block.draft baseline) = .ok hierarchy := by
  rw [bind_eq]
  constructor
  · intro bound
    split at bound
    · cases bound
    · next statements =>
      split at bound
      · cases bound
      · next baseline given =>
        split at bound
        · cases bound
        · split at bound
          · cases bound
          · have ordered : block.ordered = true := by
              simp only [Bool.or_eq_true, not_or, Bool.not_eq_true'] at statements
              simpa using statements.1
            exact ⟨ordered, baseline, given, Outcome.mapError_eq_ok.mp bound⟩
  · rintro ⟨ordered, baseline, given, built⟩
    obtain ⟨listed, edges, based⟩ := ranked_of_build built
    have statements : ¬ (!block.ordered || block.order.isEmpty) = true := by simp [ordered, listed]
    rw [if_neg statements, given]
    simp only [edges, based, not_true_eq_false, if_false]
    exact Outcome.mapError_eq_ok.mpr built

/-- A block that is written can be bound exactly if it is well formed. -/
theorem bind_isOk_iff (written : block.Written) :
    (∃ hierarchy, block.bind = .ok hierarchy) ↔ block.WellFormed := by
  constructor
  · rintro ⟨hierarchy, bound⟩
    have names := (hierarchy_bind_eq_ok bound).1
    obtain ⟨ordered, baseline, given, built⟩ := bind_eq_ok_iff.mp bound
    obtain ⟨_, edges, based⟩ := ranked_of_build built
    exact ⟨ordered, names ▸ hierarchy.distinct, unranked?_eq_none.mp edges, baseline, given, based⟩
  · intro wellFormed
    obtain ⟨baseline, given, based⟩ := wellFormed.based
    have listed := written.ranks wellFormed.ordered
    have edges := unranked?_eq_none.mpr wellFormed.edges
    rcases (closed_draft written listed edges based).built_or_repeated with
      ⟨hierarchy, built⟩ | ⟨name, _, twice⟩
    · exact ⟨hierarchy, bind_eq_ok_iff.mpr ⟨wellFormed.ordered, baseline, given, built⟩⟩
    · rw [names_draft] at twice
      have once := List.nodup_iff_count.mp wellFormed.distinct name
      omega

/-- A hierarchy that is built from a block has its baseline. -/
theorem baseline_of_bind {hierarchy : Hierarchy} (bound : block.bind = .ok hierarchy) :
    block.baseline.map Mention.name = some hierarchy.baseline.name := by
  obtain ⟨_, baseline, given, built⟩ := bind_eq_ok_iff.mp bound
  rw [given]
  exact Hierarchy.baseline_of_build built

/-! What a refused block is refused for, and where that shows. -/

/-- Whether the order of a block leaves out an end of an edge. -/
def leavesOut (block : HierarchyDeclaration) (edge : EdgeDeclaration) : Bool :=
  decide (edge.lower ∉ block.order.map Mention.name ∨ edge.upper ∉ block.order.map Mention.name)

/-- The first edge of a block with an end that is not ranked. -/
def faultyEdge? (block : HierarchyDeclaration) : Option EdgeDeclaration :=
  block.edges.find? block.leavesOut

/-- The token at which a fault of a block shows. A missing statement and a name that is ranked twice show
at the keyword, an edge at its lower end. -/
inductive Shows (block : HierarchyDeclaration) : BindingFault → Token → Nat → Prop where
  | unordered (missing : block.ordered = false) :
      Shows block .orderMissing (.keyword "hierarchy") block.offset
  | baseless (missing : block.baseline = none) :
      Shows block .baselineMissing (.keyword "hierarchy") block.offset
  | repeated (name : String) (twice : 1 < (block.order.map Mention.name).count name) :
      Shows block (.hierarchyInvalid (.rankedTwice name)) (.keyword "hierarchy") block.offset
  | lower (edge : EdgeDeclaration) (first : block.faultyEdge? = some edge)
      (outside : edge.lower ∉ block.order.map Mention.name) :
      Shows block (.edgeUnranked edge.lower) (.qualifier edge.lower) edge.offset
  | upper (edge : EdgeDeclaration) (first : block.faultyEdge? = some edge)
      (inside : edge.lower ∈ block.order.map Mention.name)
      (outside : edge.upper ∉ block.order.map Mention.name) :
      Shows block (.edgeUnranked edge.upper) (.qualifier edge.lower) edge.offset
  | baseline (mention : Mention) (given : block.baseline = some mention)
      (outside : mention.name ∉ block.order.map Mention.name) :
      Shows block (.baselineUnranked mention.name) (.qualifier mention.name) mention.offset

theorem Shows.recorded (shows : block.Shows fault token offset) :
    ⟨token, some offset⟩ ∈ block.recorded := by
  have edges {edge : EdgeDeclaration} (first : block.faultyEdge? = some edge) :
      edge.lexeme ∈ block.recorded :=
    List.mem_cons_of_mem _ (List.mem_append_left _ (List.mem_append_right _
      (List.mem_map_of_mem (List.mem_of_find?_eq_some first))))
  cases shows with
  | unordered missing => exact List.mem_cons_self
  | baseless missing => exact List.mem_cons_self
  | repeated name twice => exact List.mem_cons_self
  | lower edge first outside => exact edges first
  | upper edge first inside outside => exact edges first
  | baseline mention given outside =>
    exact List.mem_cons_of_mem _ (List.mem_append_right _
      (List.mem_map_of_mem (f := Mention.lexeme) (Option.mem_toList.mpr given)))

/-- The first name that an edge does not find is an end of the first faulty edge. -/
theorem unranked?_eq (block : HierarchyDeclaration) : block.unranked? = block.faultyEdge?.map fun edge =>
    (if edge.lower ∉ block.order.map Mention.name then edge.lower else edge.upper, edge.offset) := by
  unfold unranked? faultyEdge? leavesOut
  generalize block.order.map Mention.name = names
  induction block.edges with
  | nil => rfl
  | cons edge rest ih =>
    rw [List.findSome?_cons, List.find?_cons, ih]
    by_cases lower : edge.lower ∈ names
    · by_cases upper : edge.upper ∈ names
      · simp [lower, upper]
      · simp [lower, upper]
    · simp [lower]

/-- A block that is refused is so for a fault that shows. -/
theorem shows_of_bind (written : block.Written) (refused : block.bind = .error located) :
    ∃ token, block.Shows located.fault token located.offset := by
  rw [bind_eq] at refused
  split at refused
  · next statements =>
    cases refused
    refine ⟨_, .unordered ?_⟩
    cases ordered : block.ordered with
    | false => rfl
    | true => simp [ordered, written.ranks ordered] at statements
  · next statements =>
    have listed : block.order ≠ [] := by
      intro empty
      simp [empty] at statements
    split at refused
    · next missing =>
      cases refused
      exact ⟨_, .baseless missing⟩
    · next baseline given =>
      split at refused
      · next name place unranked =>
        cases refused
        rw [unranked?_eq] at unranked
        obtain ⟨edge, first, same⟩ := Option.map_eq_some_iff.mp unranked
        obtain ⟨rfl, rfl⟩ := Prod.mk.inj same
        have either : edge.lower ∉ block.order.map Mention.name ∨
            edge.upper ∉ block.order.map Mention.name := by
          simpa only [leavesOut, decide_eq_true_eq] using List.find?_some first
        by_cases inside : edge.lower ∈ block.order.map Mention.name
        · rw [if_neg (not_not_intro inside)]
          exact ⟨_, .upper edge first inside (either.resolve_left (not_not_intro inside))⟩
        · rw [if_pos inside]
          exact ⟨_, .lower edge first inside⟩
      · next edges =>
        split at refused
        · next outside =>
          cases refused
          exact ⟨_, .baseline baseline given outside⟩
        · next based =>
          rcases (closed_draft written listed edges (by simpa using based)).built_or_repeated with
            ⟨hierarchy, built⟩ | ⟨name, built, twice⟩
          · rw [built] at refused
            cases refused
          · rw [built] at refused
            cases refused
            exact ⟨_, .repeated name (names_draft block _ ▸ twice)⟩

/-- Building refuses a block that is written only for a name that comes twice in its order. -/
theorem repeated_of_bind (written : block.Written) {fault : Hierarchy.Fault}
    (refused : block.bind = .error ⟨.hierarchyInvalid fault, offset⟩) :
    ∃ name, fault = .rankedTwice name ∧ 1 < (block.order.map Mention.name).count name := by
  obtain ⟨token, shows⟩ := shows_of_bind written refused
  cases shows with
  | repeated name twice => exact ⟨name, rfl, twice⟩

end HierarchyDeclaration
end SchemeTyping.AnalysisUnit
