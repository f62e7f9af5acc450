import SchemeTyping.Proofs.AnalysisUnit.Guarded
import SchemeTyping.Proofs.AnalysisUnit.Showing

/-! Why a text is refused: no items are laid out in it, or one of them has a position with too many
digits, or else its declarations cannot be bound. -/
namespace SchemeTyping.AnalysisUnit
open Peg Grammar
variable {text : List Char} {source : String}

/-- Some constraint among the items has a position with more digits than a numeral may have. -/
def Overlong (items : List Item) : Prop :=
  ∃ written, .constraint written ∈ items ∧ Text.digitLimit < written.digits.length

theorem overlong_iff {items : List Item} {tree : Tree} (seen : ShowsUnit items tree) :
    (tree.wordsOf .integer).any (fun digits => Text.digitLimit < digits.length) = true ↔
      Overlong items := by
  rw [← not_iff_not, seen.numerals]
  simp only [Overlong, List.any_eq_true, decide_eq_true_iff, not_exists, not_and, Nat.not_lt]
  exact numerals_le_iff

/-- A text is matched in full if items are laid out in it, and the match shows them. -/
theorem matched_of_laidOut {items : List Item} (laid : LaidOut items text) :
    ∃ tree, Rule.unit.matchAll text 0 = .ok tree ∧ ShowsUnit items tree := by
  obtain ⟨tree, takes, seen⟩ := takes_of_laidOut laid
  exact ⟨tree, matchAll_eq_ok.mpr takes, seen⟩

/-- A text is not matched in full exactly if no items are laid out in it. -/
theorem parse_unexpected_iff : (∃ offset, parse text = .error (.unexpected offset)) ↔
    ∀ items, ¬ LaidOut items text := by
  constructor
  · rintro ⟨offset, refused⟩ items laid
    obtain ⟨tree, found, _⟩ := matched_of_laidOut laid
    simp only [parse, found] at refused
    split at refused
    · cases refused
    · cases refused
  · intro bare
    unfold parse
    cases found : Rule.unit.matchAll text 0 with
    | error mismatch =>
      cases mismatch with
      | nothing => exact ⟨0, rfl⟩
      | incomplete stop => exact ⟨stop, rfl⟩
    | ok tree =>
      obtain ⟨items, laid, _⟩ := laidOut_of_takes (matchAll_eq_ok.mp found)
      exact absurd laid (bare items)

/-- A numeral is too long exactly if items are laid out in the text and one has such a position. -/
theorem parse_numeralTooLong_iff : parse text = .error .numeralTooLong ↔
    ∃ items, LaidOut items text ∧ Overlong items := by
  constructor
  · intro refused
    unfold parse at refused
    split at refused
    · cases refused
    · cases refused
    · next tree found =>
      obtain ⟨items, laid, seen⟩ := laidOut_of_takes (matchAll_eq_ok.mp found)
      split at refused
      · next long => exact ⟨items, laid, (overlong_iff seen).mp long⟩
      · cases refused
  · rintro ⟨items, laid, long⟩
    obtain ⟨tree, found, seen⟩ := matched_of_laidOut laid
    simp only [parse, found]
    exact if_pos ((overlong_iff seen).mpr long)

/-- Items that are laid out without such a position are declared, all of them. -/
theorem parse_of_laidOut {items : List Item} (laid : LaidOut items text) (short : ¬ Overlong items) :
    parse text = .ok (items.map Item.declaration) := by
  obtain ⟨tree, found, seen⟩ := matched_of_laidOut laid
  simp only [parse, found, seen.declared]
  exact if_neg fun long => short ((overlong_iff seen).mp long)

/-- Where binding declarations stops: at their hierarchy, or at a declaration over it. -/
def StopsAt (declarations : List Declaration) (located : Located) : Prop :=
  bindHierarchy declarations = .error located ∨ ∃ hierarchy bound,
    bindHierarchy declarations = .ok hierarchy ∧
      Bound.addAll hierarchy {} declarations = (bound, some located)

/-- A text that is read is refused exactly for declarations that cannot be bound, where binding stops. -/
theorem load_eq_error_iff {declarations : List Declaration} (parsed : parse text = .ok declarations)
    {fault : LoadFault} : (load text source).result = .error fault ↔ ∃ located,
      fault = .unbound located.fault (Span.ofOffset text located.offset source) ∧
        StopsAt declarations located := by
  have read : AnalysisUnit.declarations text source = .ok declarations :=
    Outcome.mapError_eq_ok.mpr parsed
  simp only [load, read, assemble, StopsAt]
  cases bindHierarchy declarations with
  | error located => simp [eq_comm]
  | ok hierarchy =>
    simp only [reduceCtorEq, Except.ok.injEq, exists_and_left, exists_eq_left', false_or]
    split
    · next added => simp [added, eq_comm]
    · next added => simp [added]

/-- A text that is not read is refused for what keeps it from being read. -/
theorem result_of_parse_error {fault : ParseFault} (failed : parse text = .error fault) :
    (load text source).result = .error (fault.locate text source) := by
  have unread : AnalysisUnit.declarations text source = .error (fault.locate text source) := by
    rw [AnalysisUnit.declarations, failed]
    rfl
  simp only [load, unread]

/-- A text is refused for what keeps it from being read, or for declarations that cannot be bound. -/
theorem refused_cases {fault : LoadFault} (refused : (load text source).result = .error fault) :
    (∃ failure, parse text = .error failure ∧ fault = failure.locate text source) ∨
      ∃ declarations located, parse text = .ok declarations ∧
        fault = .unbound located.fault (Span.ofOffset text located.offset source) ∧
        StopsAt declarations located := by
  cases parsed : parse text with
  | error failure =>
    rw [result_of_parse_error parsed] at refused
    exact .inl ⟨failure, rfl, (Except.error.inj refused).symm⟩
  | ok declarations =>
    obtain ⟨located, same, stopped⟩ := (load_eq_error_iff parsed).mp refused
    exact .inr ⟨declarations, located, rfl, same, stopped⟩

theorem load_unexpected_iff :
    (∃ got span, (load text source).result = .error (.unexpected got span)) ↔
      ∀ items, ¬ LaidOut items text := by
  rw [← parse_unexpected_iff]
  constructor
  · rintro ⟨got, span, refused⟩
    obtain ⟨failure, failed, same⟩ | ⟨_, _, _, same, _⟩ := refused_cases refused
    · cases failure with
      | unexpected offset => exact ⟨offset, failed⟩
      | numeralTooLong => cases same
    · cases same
  · rintro ⟨offset, failed⟩
    exact ⟨_, _, result_of_parse_error failed⟩

theorem load_numeralTooLong_iff : (load text source).result = .error .numeralTooLong ↔
    ∃ items, LaidOut items text ∧ Overlong items := by
  rw [← parse_numeralTooLong_iff]
  constructor
  · intro refused
    obtain ⟨failure, failed, same⟩ | ⟨_, _, _, same, _⟩ := refused_cases refused
    · cases failure with
      | unexpected offset => cases same
      | numeralTooLong => exact failed
    · cases same
  · exact result_of_parse_error

/-- The codes for a name that is not there or comes twice. -/
inductive Code.OfNames : Code → Prop where
  | unknownQualifier : OfNames .unknownQualifier
  | unknownReference : OfNames .unknownReference
  | duplicateReference : OfNames .duplicateReference
  | duplicateOption : OfNames .duplicateOption

/-- A fault is about a name, and shows at one of some offsets. -/
structure Located.OfNames (located : Located) (offsets : List Nat) : Prop where
  code : located.fault.code.OfNames
  shows : located.offset ∈ offsets

/-- A fault that shows at a declaration is about a name, at an offset that the declaration records. -/
theorem Declaration.Shows.ofNames {order : List String} {before : List Declaration}
    {declaration : Declaration} {located : Located} {token : Token}
    (shows : declaration.Shows order before located.fault token located.offset) :
    located.OfNames declaration.offsets := by
  refine ⟨?_, ?_⟩
  · obtain ⟨fault, offset⟩ := located
    cases shows with
    | reference declaration shows =>
      cases shows with
      | identifier taken => exact .duplicateReference
      | target target viewed missing => exact .unknownReference
      | option front later option given once again => exact .duplicateOption
      | scheme option given crypt outside => exact .unknownQualifier
      | candidate mention listed outside => exact .unknownQualifier
      | element element owner owns earlier taken => exact .duplicateReference
    | constraint declaration identifier used missing => exact .unknownReference
  · rw [Declaration.offsets_eq]
    exact List.mem_filterMap.mpr ⟨_, shows.recorded, rfl⟩

/-- Whatever stops declarations from being taken up is about names, and shows where one of them says. -/
theorem ofNames_addAll {hierarchy : Hierarchy} {before declarations : List Declaration}
    {bound after : Bound} {located : Located} (reflects : Bound.Reflects hierarchy before bound)
    (stopped : Bound.addAll hierarchy bound declarations = (after, some located)) :
    located.OfNames (declarations.flatMap Declaration.offsets) := by
  obtain ⟨front, declaration, rest, rfl, added, refused⟩ := Bound.addAll_eq_some stopped
  obtain ⟨token, shows⟩ := shows_of_add (reflects.addAll added) refused
  obtain ⟨code, shown⟩ := shows.ofNames
  exact ⟨code, List.mem_flatMap.mpr
    ⟨declaration, List.mem_append_right _ List.mem_cons_self, shown⟩⟩

theorem BindingFault.code_eq_invalidHierarchy {fault : BindingFault} :
    fault.code = .invalidHierarchy ↔ ∃ inner, fault = .hierarchyInvalid inner := by
  cases fault <;> simp [code]

/-- An order is called invalid only if it is that of the only block and repeats a name. -/
theorem repeated_of_invalidHierarchy {fault : BindingFault} {span : Span}
    (refused : (load text source).result = .error (.unbound fault span))
    (invalid : fault.code = .invalidHierarchy) :
    ∃ declarations block name, parse text = .ok declarations ∧
      hierarchyBlocks declarations = [block] ∧ fault = .hierarchyInvalid (.rankedTwice name) ∧
      1 < (block.order.map Mention.name).count name := by
  obtain ⟨failure, _, same⟩ | ⟨declarations, located, parsed, same, stopped⟩ := refused_cases refused
  · cases failure <;> cases same
  · obtain ⟨rfl, _⟩ := LoadFault.unbound.inj same
    rcases stopped with unranked | ⟨hierarchy, bound, _, stopped⟩
    · obtain ⟨fault, offset⟩ := located
      obtain ⟨inner, rfl⟩ := BindingFault.code_eq_invalidHierarchy.mp invalid
      unfold bindHierarchy at unranked
      split at unranked
      · cases unranked
      · next block single =>
        have written : block.Written := written_of_parse parsed block (by simp [single])
        obtain ⟨name, rfl, twice⟩ := HierarchyDeclaration.repeated_of_bind written unranked
        exact ⟨declarations, block, name, parsed, single, rfl, twice⟩
      · cases unranked
    · have named := (ofNames_addAll (Bound.reflects_nil hierarchy) stopped).code
      rw [invalid] at named
      cases named

/-- Every text loads or is refused, and what refuses it is told. It is unexpected exactly if no items are
laid out in it, and has a numeral that is too long exactly if some item has; otherwise all its items are
declared, and a hierarchy is called invalid only for a name that its order repeats. -/
theorem load_refusals (text : List Char) (source : String) :
    Guarded.load text source = (load text source).result.mapError .told ∧
      ((∃ got span, (load text source).result = .error (.unexpected got span)) ↔
        ∀ items, ¬ LaidOut items text) ∧
      ((load text source).result = .error .numeralTooLong ↔
        ∃ items, LaidOut items text ∧ Overlong items) ∧
      (∀ items, LaidOut items text → ¬ Overlong items →
        parse text = .ok (items.map Item.declaration)) ∧
      ∀ fault span, (load text source).result = .error (.unbound fault span) →
        fault.code = .invalidHierarchy → ∃ declarations block name,
          parse text = .ok declarations ∧ hierarchyBlocks declarations = [block] ∧
          fault = .hierarchyInvalid (.rankedTwice name) ∧
          1 < (block.order.map Mention.name).count name :=
  ⟨Guarded.load_eq text source, load_unexpected_iff, load_numeralTooLong_iff,
    fun _ laid short => parse_of_laidOut laid short,
    fun _ _ refused invalid => repeated_of_invalidHierarchy refused invalid⟩

/-- A block that ranks one name twice. -/
def doubled : List Char := "hierarchy \x7b order A, A; baseline A; \x7d".toList

theorem load_refusals_doubled : ∃ declarations block, parse doubled = .ok declarations ∧
    hierarchyBlocks declarations = [block] ∧ 1 < (block.order.map Mention.name).count "A" := by
  have refused : (load doubled "doubled").result.map AnalysisUnit.source = .error
      (.unbound (.hierarchyInvalid (.rankedTwice "A")) (Span.ofOffset doubled 0 "doubled")) := by
    decide +kernel
  obtain ⟨_, _, _, _, invalid⟩ := load_refusals doubled "doubled"
  obtain ⟨declarations, block, name, parsed, single, same, twice⟩ :=
    invalid _ _ (Outcome.map_eq_error.mp refused) rfl
  cases same
  exact ⟨declarations, block, parsed, single, twice⟩

end SchemeTyping.AnalysisUnit
