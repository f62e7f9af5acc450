import SchemeTyping.Proofs.AnalysisUnit.Joining
import SchemeTyping.Proofs.AnalysisUnit.Refusals
import SchemeTyping.Proofs.Text.Span

/-! Extending a text: declarations that come behind others do not change how those are bound. What was
bound stays, and what stopped the binding still does. -/
namespace SchemeTyping.AnalysisUnit
variable {hierarchy : Hierarchy} {declarations others : List Declaration} {located : Located}

/-- Whatever is wrong with a block shows at an offset that it records. -/
theorem HierarchyDeclaration.offset_of_bind {block : HierarchyDeclaration}
    (refused : block.bind = .error located) : located.offset ∈ block.offsets := by
  rw [bind_eq] at refused
  split at refused
  · cases refused
    exact List.mem_cons_self
  · split at refused
    · cases refused
      exact List.mem_cons_self
    · next baseline given =>
      split at refused
      · next name offset unranked =>
        cases refused
        obtain ⟨edge, present, shown⟩ := List.exists_of_findSome?_eq_some unranked
        have own : edge.offset = offset := by
          split at shown
          · exact congrArg Prod.snd (Option.some.inj shown)
          · split at shown
            · exact congrArg Prod.snd (Option.some.inj shown)
            · cases shown
        simp only [offsets, ← own, List.mem_cons, List.mem_append, List.mem_map]
        exact .inr (.inl (.inr ⟨edge, present, rfl⟩))
      · split at refused
        · cases refused
          simp [offsets, given]
        · obtain ⟨_, _, rfl⟩ := Outcome.mapError_eq_error.mp refused
          exact List.mem_cons_self

theorem offsets_of_block {block : HierarchyDeclaration} (member : block ∈ hierarchyBlocks declarations) :
    block.offsets ⊆ declarations.flatMap Declaration.offsets := by
  obtain ⟨declaration, present, same⟩ := List.mem_filterMap.mp member
  cases declaration with
  | hierarchy other =>
    cases same
    exact fun offset inside => List.mem_flatMap.mpr ⟨_, present, inside⟩
  | _ => cases same

/-- Binding stops at an offset that a declaration records. -/
theorem StopsAt.offset (stops : StopsAt declarations located) :
    located.offset ∈ declarations.flatMap Declaration.offsets := by
  rcases stops with unranked | ⟨_, _, _, stopped⟩
  · unfold bindHierarchy at unranked
    split at unranked
    · cases unranked
    · next block single =>
      exact offsets_of_block (single ▸ List.mem_cons_self) (block.offset_of_bind unranked)
    · next first second more several =>
      cases unranked
      have member : second ∈ hierarchyBlocks declarations := by simp [several]
      exact offsets_of_block member List.mem_cons_self
  · exact (ofNames_addAll (Bound.reflects_nil _) stopped).shows

/-- A token whose offset an item of a text records stands there in the text. -/
theorem stands_of_renders {text : List Char} {items : List Item} (renders : Renders items text)
    {item : Item} (member : item ∈ items) {lexeme : Lexeme} (inside : lexeme ∈ item.lexemes)
    {offset : Nat} (recorded : lexeme.offset = some offset) :
    lexeme.token.chars <+: text.drop offset := by
  obtain ⟨⟨lead, body, rfl, _, laid⟩, _⟩ := renders
  exact laid.stands (List.mem_flatMap.mpr ⟨item, member, inside⟩) recorded

/-- All offsets that the declarations of a text record lie within it. -/
theorem offset_lt_of_parse {text : List Char} (parsed : parse text = .ok declarations) :
    ∀ offset ∈ declarations.flatMap Declaration.offsets, offset < text.length := by
  obtain ⟨items, renders, rfl⟩ := renders_of_parse parsed
  intro offset member
  rw [List.flatMap_map] at member
  obtain ⟨item, present, shown⟩ := List.mem_flatMap.mp member
  rw [Declaration.offsets_eq] at shown
  obtain ⟨lexeme, own, recorded⟩ := List.mem_filterMap.mp shown
  have inside := item.recorded_subset own
  obtain ⟨char, others, chars, _⟩ := (renders.1.valid present lexeme inside).head
  have stands := (stands_of_renders renders present inside recorded).length_le
  rw [chars, List.length_cons, List.length_drop] at stands
  omega

/-- Declarations without a block leave the hierarchy of those before them. -/
theorem bindHierarchy_append (plain : hierarchyBlocks others = []) :
    bindHierarchy (declarations ++ others) = bindHierarchy declarations := by
  have blocks : hierarchyBlocks (declarations ++ others) = hierarchyBlocks declarations := by
    rw [hierarchyBlocks, List.filterMap_append]
    exact (congrArg _ plain).trans (List.append_nil _)
  unfold bindHierarchy
  rw [blocks]

/-- What was bound earlier stays as it is: references and constraints come behind it, and the profiles of
its references stay. -/
structure Bound.Extends (later earlier : Bound) : Prop where
  references : earlier.store.references <+: later.store.references
  profiles : ∀ reference ∈ earlier.store.references,
    later.typing.profile reference = earlier.typing.profile reference
  constraints : earlier.constraints <+: later.constraints

namespace Bound
variable {bound next after : Bound}

theorem addAll_append : Bound.addAll hierarchy bound (declarations ++ others) =
    match Bound.addAll hierarchy bound declarations with
    | (after, some located) => (after, some located)
    | (after, none) => Bound.addAll hierarchy after others := by
  induction declarations generalizing bound with
  | nil => rfl
  | cons declaration rest ih =>
    rw [List.cons_append, addAll, addAll]
    cases bound.add hierarchy declaration with
    | error fault => rfl
    | ok middle => exact ih

theorem Extends.refl (bound : Bound) : Extends bound bound :=
  ⟨List.prefix_rfl, fun _ _ => rfl, List.prefix_rfl⟩

theorem Extends.trans (later : Extends after next) (earlier : Extends next bound) :
    Extends after bound where
  references := earlier.references.trans later.references
  profiles reference member :=
    (later.profiles reference (earlier.references.subset member)).trans
      (earlier.profiles reference member)
  constraints := earlier.constraints.trans later.constraints

/-- One more declaration extends what is bound: a reference that is added is none of those before. -/
theorem Extends.of_add {declaration : Declaration} (added : bound.add hierarchy declaration = .ok next) :
    Extends next bound := by
  cases declaration with
  | hierarchy block =>
    obtain rfl := Except.ok.inj added
    exact .refl bound
  | reference declaration =>
    obtain ⟨reference, profile, _, stored, typing, constraints, _⟩ := addReference_eq_ok added
    obtain ⟨listed, fresh⟩ := Store.add_eq_ok stored
    refine ⟨listed ▸ List.prefix_append _ _, fun other member => ?_, constraints ▸ List.prefix_rfl⟩
    have apart : other.entity ≠ reference.entity := fun same =>
      fresh (List.mem_map.mpr ⟨other, member, congrArg Entity.identifier same⟩)
    rw [typing]
    exact Typing.get_put_of_ne _ _ apart
  | constraint declaration =>
    obtain ⟨_, _, rfl⟩ := addConstraint_eq_ok added
    exact ⟨List.prefix_rfl, fun _ _ => rfl, List.prefix_append _ _⟩

/-- Taking up declarations extends what is bound, even where it stops. -/
theorem Extends.of_addAll {stopped : Option Located}
    (added : Bound.addAll hierarchy bound declarations = (after, stopped)) : Extends after bound := by
  induction declarations generalizing bound with
  | nil =>
    obtain rfl := (Prod.mk.inj added).1
    exact .refl bound
  | cons declaration rest ih =>
    unfold Bound.addAll at added
    split at added
    · obtain rfl := (Prod.mk.inj added).1
      exact .refl bound
    · next middle taken => exact (ih added).trans (.of_add taken)

end Bound

/-- What stops the binding of some declarations stops it if others without a block follow. -/
theorem StopsAt.append (stops : StopsAt declarations located) (plain : hierarchyBlocks others = []) :
    StopsAt (declarations ++ others) located := by
  rcases stops with unranked | ⟨hierarchy, bound, found, stopped⟩
  · exact .inl ((bindHierarchy_append plain).trans unranked)
  · refine .inr ⟨hierarchy, bound, (bindHierarchy_append plain).trans found, ?_⟩
    rw [Bound.addAll_append, stopped]

/-- Behind declarations that can be bound, others without a block extend what is bound, or they stop the
binding at an offset of their own. -/
theorem extends_or_stops {bound : Bound} (found : bindHierarchy declarations = .ok hierarchy)
    (added : Bound.addAll hierarchy {} declarations = (bound, none))
    (plain : hierarchyBlocks others = []) :
    (∃ located, StopsAt (declarations ++ others) located ∧
      located.offset ∈ others.flatMap Declaration.offsets) ∨
    ∃ after, bindHierarchy (declarations ++ others) = .ok hierarchy ∧
      Bound.addAll hierarchy {} (declarations ++ others) = (after, none) ∧ after.Extends bound := by
  have ranked : bindHierarchy (declarations ++ others) = .ok hierarchy :=
    (bindHierarchy_append plain).trans found
  have taken : Bound.addAll hierarchy {} (declarations ++ others) =
      Bound.addAll hierarchy bound others := by
    rw [Bound.addAll_append, added]
  rcases behind : Bound.addAll hierarchy bound others with ⟨after, _ | located⟩
  · exact .inr ⟨after, ranked, taken.trans behind, .of_addAll behind⟩
  · have reflects := (Bound.reflects_nil hierarchy).addAll added
    exact .inl ⟨located, .inr ⟨hierarchy, after, ranked, taken.trans behind⟩,
      (ofNames_addAll reflects behind).shows⟩

/-- A text that is read may go on after a line feed with further declarations but no block. A fault in its
declarations stays what and where it is; and the unit that it makes up only grows, unless the
declarations behind it have a fault on a later line. -/
theorem load_join {text more : List Char} (source : String) (parsed : parse text = .ok declarations)
    (later : parse more = .ok others) (plain : hierarchyBlocks others = []) :
    (∀ fault span, (load text source).result = .error (.unbound fault span) →
      (load (text ++ '\n' :: more) source).result = .error (.unbound fault span)) ∧
    ∀ unit, (load text source).result = .ok unit →
      (∃ fault span, (load (text ++ '\n' :: more) source).result = .error (.unbound fault span) ∧
        (Span.ofOffset text text.length source).line < span.line) ∨
      ∃ whole, (load (text ++ '\n' :: more) source).result = .ok whole ∧
        whole.hierarchy = unit.hierarchy ∧
        unit.store.references <+: whole.store.references ∧
        (∀ reference ∈ unit.store.references,
          whole.typing.profile reference = unit.typing.profile reference ∧
          ∀ viewed ∈ reference.kind.declaration?, whole.typing.get viewed = unit.typing.get viewed) ∧
        unit.constraints <+: whole.constraints := by
  have joined := parse_join parsed later
  have unblocked : hierarchyBlocks (others.map (Declaration.move (text.length + 1))) = [] := by
    rw [hierarchyBlocks_move, plain]
    rfl
  constructor
  · intro fault span refused
    obtain ⟨located, same, stops⟩ := (load_eq_error_iff parsed).mp refused
    refine (load_eq_error_iff joined).mpr ⟨located, ?_, stops.append unblocked⟩
    rw [Span.ofOffset_append (Nat.le_of_lt (offset_lt_of_parse parsed _ stops.offset))]
    exact same
  · intro unit loaded
    obtain ⟨hierarchy, bound, found, added, rfl⟩ := (load_eq_ok_iff parsed).mp loaded
    rcases extends_or_stops found added unblocked with
      ⟨located, stops, shows⟩ | ⟨after, ranked, taken, grown⟩
    · exact .inl ⟨located.fault, _, (load_eq_error_iff joined).mpr ⟨located, rfl, stops⟩,
        Span.line_ofOffset_lt (le_of_mem_offsets_move shows)⟩
    · refine .inr ⟨_, (load_eq_ok_iff joined).mpr ⟨hierarchy, after, ranked, taken, rfl⟩, rfl,
        grown.references, fun reference member => ⟨grown.profiles reference member, ?_⟩,
        grown.constraints⟩
      intro viewed views
      obtain ⟨declared, present, rfl⟩ := Bound.viewsOwn_of_addAll added reference member viewed views
      exact grown.profiles declared present

/-- A unit that ends with a comment, and a constraint to come behind it. -/
def commented : List Char :=
  "hierarchy \x7b order HIGH, LOW; baseline LOW; \x7d\nref v: variable \x7b HIGH \x7d; # and".toList

def addition : List Char := "constraint v <: v @ 7;".toList

theorem load_join_commented : ∃ declarations others unit whole,
    parse commented = .ok declarations ∧ parse addition = .ok others ∧ hierarchyBlocks others = [] ∧
      (load commented "commented").result = .ok unit ∧
      (load (commented ++ '\n' :: addition) "commented").result = .ok whole ∧
      unit.store.references <+: whole.store.references ∧ unit.constraints <+: whole.constraints := by
  have plain : (parse addition).toOption.map hierarchyBlocks = some [] := by decide +kernel
  have first : (load commented "commented").result.toOption.map AnalysisUnit.source =
      some "commented" := by
    decide +kernel
  have both : (load (commented ++ '\n' :: addition) "commented").result.toOption.map
      AnalysisUnit.source = some "commented" := by
    decide +kernel
  obtain ⟨others, later, unblocked⟩ := Outcome.exists_of_toOption_map plain
  obtain ⟨unit, loaded, _⟩ := Outcome.exists_of_toOption_map first
  obtain ⟨declarations, _, _, parsed, _⟩ := load_eq_ok loaded
  obtain ⟨whole, loadedWhole, _⟩ := Outcome.exists_of_toOption_map both
  rcases (load_join "commented" parsed later unblocked).2 unit loaded with
    ⟨_, _, refused, _⟩ | ⟨other, grown, _, references, _, constraints⟩
  · rw [loadedWhole] at refused
    cases refused
  · rw [loadedWhole] at grown
    cases grown
    exact ⟨declarations, others, unit, whole, parsed, later, unblocked, loaded, loadedWhole, references,
      constraints⟩

end SchemeTyping.AnalysisUnit
