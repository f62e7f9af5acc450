import SchemeTyping.Proofs.AnalysisUnit.Blocks
import SchemeTyping.Proofs.AnalysisUnit.Faithful

/-! Which units load: a declaration is taken up if it keeps to those before it, so that a whole file is
taken up if no two of its references clash and every name is ranked or declared earlier. -/
namespace SchemeTyping.AnalysisUnit
variable {hierarchy : Hierarchy} {order : List String} {declarations before : List Declaration}
  {declaration : Declaration} {bound : Bound}

/-- The identifiers that some declarations declare. -/
def identifiersOf (declarations : List Declaration) : List String :=
  (declaredReferences declarations).map ReferenceDeclaration.identifier

/-- The elements that the variables and parameters among some declarations own. -/
def elementsOf (declarations : List Declaration) : List String :=
  (declaredReferences declarations).filterMap ReferenceDeclaration.ownedElement?

/-- A reference declaration that gives no option twice and names nothing outside of an order. -/
structure ReferenceDeclaration.Ranked (order : List String) (declaration : ReferenceDeclaration) :
    Prop where
  options : (declaration.options.map OptionDeclaration.key).Nodup
  schemes : ∀ option ∈ declaration.options, option.key = .crypt → option.value ∈ order
  qualifiers : ∀ mention ∈ declaration.qualifiers, mention.name ∈ order

/-- Declarations that can be bound over an order: their references are told apart by identifiers and by
elements, and an adapted reference and a constraint name references that stand before them. -/
@[mk_iff]
structure Bindable (order : List String) (declarations : List Declaration) : Prop where
  identifiers : (identifiersOf declarations).Nodup
  elements : (elementsOf declarations).Nodup
  references : ∀ declaration ∈ declaredReferences declarations, declaration.Ranked order
  targets : ∀ before declaration, before ++ [.reference declaration] <+: declarations →
    ∀ target ∈ declaration.kind.declaration?, target ∈ identifiersOf before
  ends : ∀ before declaration, before ++ [.constraint declaration] <+: declarations →
    declaration.left ∈ identifiersOf before ∧ declaration.right ∈ identifiersOf before

/-- Declarations that make up a unit: at most one block, from which a hierarchy can be built, and the
rest bindable over its order, or over that of the schemes without a block. -/
structure WellFormed (declarations : List Declaration) : Prop where
  single : (hierarchyBlocks declarations).length ≤ 1
  blocks : ∀ block ∈ hierarchyBlocks declarations, block.WellFormed
  bindable : Bindable (outline declarations).order declarations

/-- What keeps a declaration in line with those before it. -/
def Admitted (order : List String) (before : List Declaration) : Declaration → Prop
  | .hierarchy _ => True
  | .reference declaration =>
    declaration.identifier ∉ identifiersOf before ∧
      (∀ element ∈ declaration.ownedElement?, element ∉ elementsOf before) ∧
      (∀ target ∈ declaration.kind.declaration?, target ∈ identifiersOf before) ∧
      declaration.Ranked order
  | .constraint declaration =>
    declaration.left ∈ identifiersOf before ∧ declaration.right ∈ identifiersOf before

theorem bindable_nil : Bindable order [] where
  identifiers := List.nodup_nil
  elements := List.nodup_nil
  references := by simp [declaredReferences]
  targets := by simp
  ends := by simp

theorem forall_prefix_snoc {Item Part : Type} {wrap : Part → Item} {items : List Item} {last : Item}
    {holds : List Item → Part → Prop} :
    (∀ front part, front ++ [wrap part] <+: items ++ [last] → holds front part) ↔
      (∀ front part, front ++ [wrap part] <+: items → holds front part) ∧
        ∀ part, wrap part = last → holds items part := by
  constructor
  · intro all
    refine ⟨fun front part inside => all front part (inside.trans (List.prefix_append _ _)), ?_⟩
    rintro part rfl
    exact all items part List.prefix_rfl
  · rintro ⟨earlier, own⟩ front part inside
    rcases List.prefix_concat_iff.mp inside with whole | before
    · obtain ⟨rfl, same⟩ := List.append_inj' whole rfl
      exact own part (List.singleton_inj.mp same)
    · exact earlier front part before

theorem nodup_snoc {Item : Type} {items : List Item} {last : Item} :
    (items ++ [last]).Nodup ↔ items.Nodup ∧ last ∉ items := by
  rw [(List.perm_append_singleton last items).nodup_iff, List.nodup_cons, and_comm]

/-- Declarations are bindable if each is admitted behind those before it. -/
theorem bindable_snoc : Bindable order (before ++ [declaration]) ↔
    Bindable order before ∧ Admitted order before declaration := by
  rw [bindable_iff, bindable_iff, forall_prefix_snoc, forall_prefix_snoc]
  cases declaration with
  | hierarchy block =>
    have declared : declaredReferences (before ++ [.hierarchy block]) = declaredReferences before := by
      simp [declaredReferences]
    simp [identifiersOf, elementsOf, declared, Admitted]
  | constraint declaration =>
    have declared : declaredReferences (before ++ [.constraint declaration]) =
        declaredReferences before := by
      simp [declaredReferences]
    have identifiers : identifiersOf (before ++ [.constraint declaration]) = identifiersOf before := by
      rw [identifiersOf, declared, identifiersOf]
    have elements : elementsOf (before ++ [.constraint declaration]) = elementsOf before := by
      rw [elementsOf, declared, elementsOf]
    simp only [identifiers, elements, declared, Admitted, reduceCtorEq, false_imp_iff, implies_true,
      and_true, Declaration.constraint.injEq, forall_eq]
    tauto
  | reference declaration =>
    have declared : declaredReferences (before ++ [.reference declaration]) =
        declaredReferences before ++ [declaration] := by
      simp [declaredReferences]
    have identifiers : (identifiersOf (before ++ [.reference declaration])).Nodup ↔
        (identifiersOf before).Nodup ∧ declaration.identifier ∉ identifiersOf before := by
      rw [identifiersOf, declared, List.map_append]
      exact nodup_snoc
    have elements : (elementsOf (before ++ [.reference declaration])).Nodup ↔
        (elementsOf before).Nodup ∧ ∀ element ∈ declaration.ownedElement?,
          element ∉ elementsOf before := by
      rw [elementsOf, declared, List.filterMap_append]
      cases owned : declaration.ownedElement? with
      | none => simp [owned, elementsOf]
      | some element =>
        rw [List.filterMap_cons_some owned, List.filterMap_nil, nodup_snoc]
        simp only [Option.mem_some_iff, forall_eq', elementsOf]
    simp only [identifiers, elements, declared, Admitted, List.forall_mem_append,
      List.forall_mem_singleton, reduceCtorEq, false_imp_iff, implies_true, and_true,
      Declaration.reference.injEq, forall_eq]
    tauto

/-- A store takes a reference of a new identifier that owns no element of another one. -/
theorem add_isOk_iff {store : Store} {reference : Reference} :
    (∃ next, store.add reference = .ok next) ↔ reference.identifier ∉ store.identifiers ∧
      ∀ element ∈ reference.declaredElement?,
        element ∉ store.references.filterMap Reference.declaredElement? := by
  constructor
  · rintro ⟨next, added⟩
    unfold Store.add at added
    split at added
    · cases added
    · next free =>
      exact ⟨Store.fresh_of_no_obstacle free, fun _ owns => Store.unowned_of_no_obstacle free owns⟩
  · rintro ⟨fresh, unowned⟩
    have free : store.obstacle? reference = none := by
      unfold Store.obstacle?
      rw [if_neg fresh]
      cases owns : reference.declaredElement? with
      | none => rfl
      | some element =>
        have absent : store.owner? element = none := by
          refine List.find?_eq_none.mpr fun owner member same => unowned element owns ?_
          exact List.mem_filterMap.mpr ⟨owner, member, by simpa using same⟩
        simp [absent]
    unfold Store.add
    split
    · next fault taken => simp [free] at taken
    · exact ⟨_, rfl⟩

/-- The elements that a store owns are those of the declarations. -/
theorem elements_of_reflects (reflects : Bound.Reflects hierarchy declarations bound) :
    bound.store.references.filterMap Reference.declaredElement? = elementsOf declarations := by
  have described := reflects.described
  unfold elementsOf
  generalize declaredReferences declarations = declared at described ⊢
  generalize bound.store.references = references at described ⊢
  induction described with
  | nil => rfl
  | cons describes _ ih => rw [List.filterMap_cons, List.filterMap_cons, describes.ownedElement, ih]

/-- A reference declaration can be bound if its identifier is new, its target is there, and its options
and qualifiers are in order. -/
theorem bind_isOk_iff {store : Store} {declaration : ReferenceDeclaration} :
    (∃ result, declaration.bind hierarchy store = .ok result) ↔
      declaration.identifier ∉ store.identifiers ∧
        (∀ target ∈ declaration.kind.declaration?, target ∈ store.identifiers) ∧
        declaration.Ranked hierarchy.names := by
  have absent : store.contains declaration.identifier = false ↔
      declaration.identifier ∉ store.identifiers := by
    rw [← Store.contains_iff, Bool.not_eq_true]
  have targets : (∃ kind, declaration.kind.bind (bindTarget store declaration.offset) = .ok kind) ↔
      ∀ target ∈ declaration.kind.declaration?, target ∈ store.identifiers := by
    rw [Kind.bind_isOk_iff]
    refine forall₂_congr fun target _ => ?_
    simp only [ReferenceDeclaration.bindTarget_eq_ok, exists_comm (α := Entity), exists_and_left,
      exists_eq', and_true, ← Store.contains_iff, Store.contains, Option.isSome_iff_exists]
  have options : (∃ taken,
      bindOptions hierarchy declaration.identifier {} declaration.options = .ok taken) ↔ _ :=
    bindOptions_isOk_iff
  have candidates : (∃ listed, bindMentions hierarchy declaration.qualifiers = .ok listed) ↔ _ :=
    bindMentions_isOk_iff
  constructor
  · rintro ⟨⟨reference, profile⟩, found⟩
    obtain ⟨fresh, kind, taken, listed, ofKind, ofOptions, ofMentions, _⟩ :=
      reference_bind_eq_ok.mp found
    obtain ⟨_, distinct, schemes⟩ := options.mp ⟨taken, ofOptions⟩
    exact ⟨absent.mp fresh, targets.mp ⟨kind, ofKind⟩, distinct, schemes,
      candidates.mp ⟨listed, ofMentions⟩⟩
  · rintro ⟨fresh, viewed, distinct, schemes, qualifiers⟩
    obtain ⟨kind, ofKind⟩ := targets.mpr viewed
    obtain ⟨taken, ofOptions⟩ := options.mpr
      ⟨fun option _ => by cases option.key <;> rfl, distinct, schemes⟩
    obtain ⟨listed, ofMentions⟩ := candidates.mpr qualifiers
    exact ⟨(_, _), reference_bind_eq_ok.mpr
      ⟨absent.mpr fresh, kind, taken, listed, ofKind, ofOptions, ofMentions, rfl, rfl⟩⟩

/-- A declaration is taken up exactly if it is admitted behind those that are bound. -/
theorem Bound.Reflects.add_isOk_iff (reflects : Bound.Reflects hierarchy declarations bound) :
    (∃ next, bound.add hierarchy declaration = .ok next) ↔
      Admitted hierarchy.names declarations declaration := by
  have identifiers : bound.store.identifiers = identifiersOf declarations := reflects.identifiers
  cases declaration with
  | hierarchy block => exact iff_of_true ⟨bound, rfl⟩ trivial
  | constraint declaration =>
    constructor
    · rintro ⟨next, added⟩
      obtain ⟨left, right, _⟩ := Bound.addConstraint_eq_ok added
      exact ⟨identifiers ▸ left, identifiers ▸ right⟩
    · rintro ⟨left, right⟩
      rw [← identifiers, ← Store.contains_iff] at left right
      have known : [declaration.left, declaration.right].find? (fun identifier =>
          !bound.store.contains identifier) = none := by
        simp [left, right]
      exact ⟨_, by rw [Bound.add, Bound.addConstraint, known]⟩
  | reference declaration =>
    constructor
    · rintro ⟨next, added⟩
      obtain ⟨reference, profile, found, stored, _⟩ := Bound.addReference_eq_ok added
      obtain ⟨fresh, targets, ranked⟩ := bind_isOk_iff.mp ⟨_, found⟩
      obtain ⟨_, unowned⟩ := add_isOk_iff.mp ⟨_, stored⟩
      have describes := ReferenceDeclaration.describes_of_bind found
      rw [describes.ownedElement, elements_of_reflects reflects] at unowned
      rw [identifiers] at fresh targets
      exact ⟨fresh, unowned, targets, ranked⟩
    · rintro ⟨fresh, unowned, targets, ranked⟩
      rw [← identifiers] at fresh targets
      obtain ⟨⟨reference, profile⟩, found⟩ := bind_isOk_iff.mpr ⟨fresh, targets, ranked⟩
      have describes := ReferenceDeclaration.describes_of_bind found
      rw [← describes.ownedElement, ← elements_of_reflects reflects] at unowned
      obtain ⟨store, stored⟩ := add_isOk_iff.mpr ⟨describes.identifier ▸ fresh, unowned⟩
      exact ⟨{ bound with store, typing := bound.typing.put reference.entity profile },
        by simp only [Bound.add, Bound.addReference, found, stored]⟩

/-- Declarations are taken up exactly if they are bindable. -/
theorem addAll_isOk_iff : (∃ bound, Bound.addAll hierarchy {} declarations = (bound, none)) ↔
    Bindable hierarchy.names declarations := by
  -- From the end, for what admits a declaration is what stands before it.
  induction declarations using List.reverseRecOn with
  | nil => exact iff_of_true ⟨{}, rfl⟩ bindable_nil
  | append_singleton before declaration ih =>
    rw [bindable_snoc, ← ih]
    constructor
    · rintro ⟨bound, added⟩
      obtain ⟨middle, earlier, last⟩ := Bound.addAll_snoc.mp added
      have reflects := (Bound.reflects_nil hierarchy).addAll earlier
      exact ⟨⟨middle, earlier⟩, reflects.add_isOk_iff.mp ⟨bound, last⟩⟩
    · rintro ⟨⟨middle, earlier⟩, admitted⟩
      have reflects := (Bound.reflects_nil hierarchy).addAll earlier
      obtain ⟨bound, last⟩ := reflects.add_isOk_iff.mpr admitted
      exact ⟨bound, Bound.addAll_snoc.mpr ⟨middle, earlier, last⟩⟩

/-- A file has a hierarchy exactly if it has at most one block and that is well formed. -/
theorem bindHierarchy_isOk_iff (written : ∀ block ∈ hierarchyBlocks declarations, block.Written) :
    (∃ hierarchy, bindHierarchy declarations = .ok hierarchy) ↔
      (hierarchyBlocks declarations).length ≤ 1 ∧
        ∀ block ∈ hierarchyBlocks declarations, block.WellFormed := by
  unfold bindHierarchy
  match blocks : hierarchyBlocks declarations with
  | [] => simp
  | [block] =>
    rw [blocks] at written
    simpa using HierarchyDeclaration.bind_isOk_iff (written block List.mem_cons_self)
  | first :: second :: rest => simp

/-- A text that is read loads exactly if its declarations have a hierarchy and are taken up over it. -/
theorem load_eq_ok_iff {text : List Char} {source : String} (parsed : parse text = .ok declarations)
    {unit : AnalysisUnit} : (load text source).result = .ok unit ↔ ∃ hierarchy bound,
      bindHierarchy declarations = .ok hierarchy ∧
        Bound.addAll hierarchy {} declarations = (bound, none) ∧
        unit = ⟨bound.store, bound.typing, bound.constraints, hierarchy, bound.policy, source⟩ := by
  have read : AnalysisUnit.declarations text source = .ok declarations :=
    Outcome.mapError_eq_ok.mpr parsed
  simp only [load, read, assemble]
  cases bindHierarchy declarations with
  | error located => simp
  | ok hierarchy =>
    simp only [Except.ok.injEq, exists_and_left, exists_eq_left']
    split
    · next added => simp [added]
    · next added => simp [added, eq_comm]

/-- A unit that is what its declarations say: the references in order, each as it is declared, with
adapted ones viewing references of the unit; the constraints in order and the severities written for
them; and the hierarchy of the only block, or of the schemes without a block. -/
structure Faithful (declarations : List Declaration) (source : String) (unit : AnalysisUnit) : Prop where
  references : List.Forall₂ (fun declaration reference =>
      declaration.Describes unit.hierarchy reference (unit.typing.profile reference))
    (declaredReferences declarations) unit.store.references
  views : Bound.ViewsOwn unit.store
  constraints : unit.constraints =
    (declaredConstraints declarations).map ConstraintDeclaration.constraint
  policy : unit.policy = (declaredConstraints declarations).foldl ConstraintDeclaration.enter {}
  default : hierarchyBlocks declarations = [] → unit.hierarchy = .schemes
  block : ∀ block ∈ hierarchyBlocks declarations,
    unit.hierarchy.names = block.order.map Mention.name ∧
      unit.hierarchy.edges = (block.edges.map fun edge => ⟨edge.lower, edge.upper⟩) ∧
      block.baseline.map Mention.name = some unit.hierarchy.baseline.name
  source : unit.source = source

theorem faithful_of_addAll {source : String} (found : bindHierarchy declarations = .ok hierarchy)
    (added : Bound.addAll hierarchy {} declarations = (bound, none)) : Faithful declarations source
      ⟨bound.store, bound.typing, bound.constraints, hierarchy, bound.policy, source⟩ := by
  have reflects := (Bound.reflects_nil hierarchy).addAll added
  have blocks : (hierarchyBlocks declarations = [] → hierarchy = .schemes) ∧
      ∀ block ∈ hierarchyBlocks declarations, block.bind = .ok hierarchy := by
    unfold bindHierarchy at found
    split at found
    · next none => simpa [none] using (Except.ok.inj found).symm
    · next single => simpa [single] using found
    · cases found
  exact {
    references := reflects.described
    views := Bound.viewsOwn_of_addAll added
    constraints := reflects.constraints
    policy := reflects.policy
    default := blocks.1
    block := fun block member =>
      have bound := blocks.2 block member
      have ⟨names, edges⟩ := hierarchy_bind_eq_ok bound
      ⟨names, edges, HierarchyDeclaration.baseline_of_bind bound⟩
    source := rfl }

/-- A text that is read loads exactly if its declarations are well formed, and then the unit is what
they say. -/
theorem load_wellFormed {text : List Char} (source : String) {declarations : List Declaration}
    (parsed : parse text = .ok declarations) :
    ((∃ unit, (load text source).result = .ok unit) ↔ WellFormed declarations) ∧
      ∀ unit, (load text source).result = .ok unit → Faithful declarations source unit := by
  constructor
  · have hierarchies := bindHierarchy_isOk_iff (written_of_parse parsed)
    constructor
    · rintro ⟨unit, loaded⟩
      obtain ⟨hierarchy, bound, found, added, _⟩ := (load_eq_ok_iff parsed).mp loaded
      obtain ⟨single, blocks⟩ := hierarchies.mp ⟨hierarchy, found⟩
      have bindable := addAll_isOk_iff.mp ⟨bound, added⟩
      rw [(bindHierarchy_eq_ok found).1] at bindable
      exact ⟨single, blocks, bindable⟩
    · rintro ⟨single, blocks, bindable⟩
      obtain ⟨hierarchy, found⟩ := hierarchies.mpr ⟨single, blocks⟩
      rw [← (bindHierarchy_eq_ok found).1] at bindable
      obtain ⟨bound, added⟩ := addAll_isOk_iff.mpr bindable
      exact ⟨_, (load_eq_ok_iff parsed).mpr ⟨hierarchy, bound, found, added, rfl⟩⟩
  · intro unit loaded
    obtain ⟨hierarchy, bound, found, added, rfl⟩ := (load_eq_ok_iff parsed).mp loaded
    exact faithful_of_addAll found added

/-- A unit with an adapted reference, whose block stands behind everything that it ranks. -/
def trailing : List Char :=
  "ref p: parameter { LOW } name \"\";\nref v: adapt(p) { HIGH } crypt HIGH;\nconstraint v <: p @ 0 warning;\nhierarchy \x7b order HIGH, LOW; baseline LOW; \x7d\n".toList

theorem load_wellFormed_trailing : ∃ declarations unit, parse trailing = .ok declarations ∧
    WellFormed declarations ∧ (load trailing "trailing").result = .ok unit ∧
    Faithful declarations "trailing" unit ∧ unit.hierarchy.names = ["HIGH", "LOW"] := by
  have accepted : (load trailing "trailing").result.toOption.map (fun unit => unit.hierarchy.names) =
      some ["HIGH", "LOW"] := by
    decide +kernel
  obtain ⟨unit, loaded, names⟩ := Outcome.exists_of_toOption_map accepted
  obtain ⟨declarations, _, _, parsed, _⟩ := load_eq_ok loaded
  obtain ⟨loads, faithful⟩ := load_wellFormed "trailing" parsed
  exact ⟨declarations, unit, parsed, loads.mp ⟨unit, loaded⟩, loaded, faithful unit loaded, names⟩

end SchemeTyping.AnalysisUnit
