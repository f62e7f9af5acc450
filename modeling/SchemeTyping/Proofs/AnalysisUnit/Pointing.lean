import SchemeTyping.Proofs.AnalysisUnit.Extension

/-! What the place of a fault points at: a token of the first declaration that is wrong. A fault over a
qualifier shows at that very qualifier; only an edge whose upper end alone is not ranked shows at its lower
end. -/
namespace SchemeTyping.AnalysisUnit
variable {declarations before after : List Declaration} {located : Located} {fault : BindingFault}
  {token : Token} {offset : Nat}

/-- The declaration and the token at which a fault of a file shows, with what stands before and behind.
Blocks are looked at first; behind them the fault is of the first declaration that is not in order. -/
inductive Shows (before after : List Declaration) : Declaration → BindingFault → Token → Nat → Prop where
  | second (block : HierarchyDeclaration) (first : (hierarchyBlocks before).length = 1) :
      Shows before after (.hierarchy block) .hierarchyTwice (.keyword "hierarchy") block.offset
  | block (block : HierarchyDeclaration) {fault : BindingFault} {token : Token} {offset : Nat}
      (only : hierarchyBlocks (before ++ .hierarchy block :: after) = [block])
      (shows : block.Shows fault token offset) :
      Shows before after (.hierarchy block) fault token offset
  | first (hierarchy : Hierarchy) (declaration : Declaration) {fault : BindingFault} {token : Token}
      {offset : Nat} (ranked : bindHierarchy (before ++ declaration :: after) = .ok hierarchy)
      (earlier : Bindable hierarchy.names before)
      (wrong : ¬ Admitted hierarchy.names before declaration)
      (shows : declaration.Shows hierarchy.names before fault token offset) :
      Shows before after declaration fault token offset

theorem Shows.recorded {declaration : Declaration}
    (shows : Shows before after declaration fault token offset) :
    ⟨token, some offset⟩ ∈ declaration.recorded := by
  cases shows with
  | second block first => exact List.mem_cons_self
  | block block only shows => exact shows.recorded
  | first hierarchy declaration ranked earlier wrong shows => exact shows.recorded

/-- The first block of a file, and what stands before and behind it. -/
theorem split_of_hierarchyBlocks {block : HierarchyDeclaration} {rest : List HierarchyDeclaration}
    (blocks : hierarchyBlocks declarations = block :: rest) :
    ∃ before after, declarations = before ++ .hierarchy block :: after ∧
      hierarchyBlocks before = [] ∧ hierarchyBlocks after = rest := by
  obtain ⟨before, declaration, after, rfl, bare, own, later⟩ := List.filterMap_eq_cons_iff.mp blocks
  cases declaration with
  | hierarchy other =>
    obtain rfl := Option.some.inj own
    exact ⟨before, after, rfl, List.filterMap_eq_nil_iff.mpr bare, later⟩
  | _ => cases own

/-- Binding stops for a fault that shows. -/
theorem shows_of_stopsAt (written : ∀ block ∈ hierarchyBlocks declarations, block.Written)
    (stops : StopsAt declarations located) : ∃ before declaration after token,
      declarations = before ++ declaration :: after ∧
        Shows before after declaration located.fault token located.offset := by
  rcases stops with unranked | ⟨hierarchy, bound, found, stopped⟩
  · unfold bindHierarchy at unranked
    split at unranked
    · cases unranked
    · next block single =>
      obtain ⟨before, after, rfl, _, _⟩ := split_of_hierarchyBlocks single
      obtain ⟨token, shows⟩ := block.shows_of_bind (written block (by simp [single])) unranked
      exact ⟨before, _, after, token, rfl, .block block single shows⟩
    · next first second more several =>
      cases unranked
      obtain ⟨before, after, rfl, bare, later⟩ := split_of_hierarchyBlocks several
      obtain ⟨between, rest, rfl, gap, _⟩ := split_of_hierarchyBlocks later
      refine ⟨before ++ .hierarchy first :: between, .hierarchy second, rest, _, by simp,
        .second second ?_⟩
      have blocks : hierarchyBlocks (before ++ .hierarchy first :: between) =
          hierarchyBlocks before ++ first :: hierarchyBlocks between := List.filterMap_append
      rw [blocks, bare, gap, List.nil_append, List.length_singleton]
  · obtain ⟨before, declaration, after, rfl, added, failed⟩ := Bound.addAll_eq_some stopped
    have reflects := (Bound.reflects_nil hierarchy).addAll added
    rw [List.nil_append] at reflects
    have earlier := addAll_isOk_iff.mp ⟨bound, added⟩
    have wrong : ¬ Admitted hierarchy.names before declaration := by
      rw [← reflects.add_isOk_iff, failed]
      rintro ⟨next, same⟩
      cases same
    obtain ⟨token, shows⟩ := shows_of_add reflects failed
    exact ⟨before, declaration, after, token, rfl,
      .first hierarchy declaration found earlier wrong shows⟩

/-- The qualifier that a fault names as unknown. -/
def BindingFault.qualifier? : BindingFault → Option String
  | .edgeUnranked name => some name
  | .baselineUnranked name => some name
  | .qualifierUnknown name _ => some name
  | _ => none

/-- Behind the blocks every fault over a qualifier shows at an occurrence of it, and none is over an edge. -/
theorem Declaration.Shows.named {order : List String} {declaration : Declaration}
    (shows : declaration.Shows order before fault token offset) :
    (∀ name ∈ fault.qualifier?, token = .qualifier name) ∧ ∀ name, fault ≠ .edgeUnranked name := by
  cases shows with
  | reference declaration shows => cases shows <;> simp [BindingFault.qualifier?]
  | constraint declaration identifier used missing => simp [BindingFault.qualifier?]

/-- The fault is over the first faulty edge of a block, and only the upper end of that is not ranked. -/
def Misplaced (declarations : List Declaration) (fault : BindingFault) : Prop :=
  ∃ block ∈ hierarchyBlocks declarations, ∃ edge, block.faultyEdge? = some edge ∧
    edge.lower ∈ block.order.map Mention.name ∧ fault = .edgeUnranked edge.upper

/-- Unless a fault is misplaced, it shows at an occurrence of the qualifier that it names. -/
theorem Shows.named_iff {declaration : Declaration}
    (shows : Shows before after declaration fault token offset) :
    (∀ name ∈ fault.qualifier?, token = .qualifier name) ↔
      ¬ Misplaced (before ++ declaration :: after) fault := by
  have placed (other : ∀ name, fault ≠ .edgeUnranked name) :
      ¬ Misplaced (before ++ declaration :: after) fault := by
    rintro ⟨_, _, edge, _, _, same⟩
    exact other edge.upper same
  cases shows with
  | second block first => exact iff_of_true (by simp [BindingFault.qualifier?]) (placed (by simp))
  | first hierarchy declaration ranked earlier wrong shows =>
    exact iff_of_true shows.named.1 (placed shows.named.2)
  | block block only shows =>
    cases shows with
    | lower edge first outside =>
      refine iff_of_true (by simp [BindingFault.qualifier?]) ?_
      rintro ⟨other, member, again, found, inside, _⟩
      rw [only, List.mem_singleton] at member
      subst member
      obtain rfl := Option.some.inj (first.symm.trans found)
      exact outside inside
    | upper edge first inside outside =>
      refine iff_of_false (fun named => ?_) (fun placed => placed ?_)
      · have same := Token.qualifier.inj (named edge.upper rfl)
        exact outside (same ▸ inside)
      · exact ⟨block, by simp [only], edge, first, inside, rfl⟩
    | unordered missing => exact iff_of_true (by simp [BindingFault.qualifier?]) (placed (by simp))
    | baseless missing => exact iff_of_true (by simp [BindingFault.qualifier?]) (placed (by simp))
    | repeated name twice => exact iff_of_true (by simp [BindingFault.qualifier?]) (placed (by simp))
    | baseline mention given outside =>
      exact iff_of_true (by simp [BindingFault.qualifier?]) (placed (by simp))

/-- A file that is refused for what it declares is so for a fault that shows, and the place that is told
is that of the token. -/
theorem load_shows {text : List Char} {source : String} {span : Span}
    (refused : (load text source).result = .error (.unbound fault span)) :
    ∃ before item after token offset, Renders (before ++ item :: after) text ∧
      ⟨token, some offset⟩ ∈ item.lexemes ∧ token.chars <+: text.drop offset ∧
      span.Behind (text.take offset) source ∧
      Shows (before.map Item.declaration) (after.map Item.declaration) item.declaration fault token
        offset ∧
      ((∀ name ∈ fault.qualifier?, token = .qualifier name) ↔
        ¬ Misplaced ((before ++ item :: after).map Item.declaration) fault) := by
  obtain ⟨failure, _, same⟩ | ⟨declarations, located, parsed, same, stops⟩ := refused_cases refused
  · cases failure <;> cases same
  · obtain ⟨rfl, rfl⟩ := LoadFault.unbound.inj same
    have inside := Nat.le_of_lt (offset_lt_of_parse parsed _ stops.offset)
    obtain ⟨items, renders, declared⟩ := renders_of_parse parsed
    obtain ⟨front, declaration, rest, token, rfl, shows⟩ :=
      shows_of_stopsAt (written_of_parse parsed) stops
    obtain ⟨before, later, rfl, rfl, split⟩ := List.map_eq_append_iff.mp declared
    obtain ⟨item, after, rfl, rfl, rfl⟩ := List.map_eq_cons_iff.mp split
    have recorded := item.recorded_subset shows.recorded
    have named := shows.named_iff
    rw [← List.map_cons, ← List.map_append] at named
    exact ⟨before, item, after, token, located.offset, renders, recorded,
      stands_of_renders renders (by simp) recorded rfl, Span.behind_ofOffset inside, shows, named⟩

/-- A candidate that the block of its file does not rank. -/
def unlisted : List Char :=
  "hierarchy \x7b order A, B; baseline B; \x7d\nref x: variable \x7b A,\n  C \x7d;".toList

theorem load_shows_unlisted : ∃ span : Span, (span.line, span.column) = (3, 3) ∧
    (load unlisted "unlisted").result.map AnalysisUnit.source =
      .error (.unbound (.qualifierUnknown "C" ["A", "B"]) span) ∧
    ∃ offset, span.Behind (unlisted.take offset) "unlisted" ∧ ['C'] <+: unlisted.drop offset := by
  have refused : (load unlisted "unlisted").result.map AnalysisUnit.source = .error
      (.unbound (.qualifierUnknown "C" ["A", "B"]) { file := "unlisted", line := 3, column := 3 }) := by
    decide +kernel
  obtain ⟨_, _, _, token, offset, _, _, stands, behind, _, named⟩ :=
    load_shows (Outcome.map_eq_error.mp refused)
  have placed := named.mpr (by rintro ⟨_, _, _, _, _, same⟩; cases same) "C" rfl
  rw [placed] at stands
  exact ⟨_, rfl, refused, offset, behind, stands⟩

/-- An edge whose upper end is not ranked, in one line. -/
def overreaching : List Char := "hierarchy \x7b order A; subtype A <: B; baseline A; \x7d".toList

/-- Not every fault over a qualifier shows at an occurrence of it: that over the upper end of an edge is
told with the place of the lower one. -/
theorem not_named_overreaching : ¬ ∀ text source fault span,
    (load text source).result = .error (.unbound fault span) →
      ∃ offset, span.Behind (text.take offset) source ∧
        ∀ name ∈ fault.qualifier?, name.toList <+: text.drop offset := by
  intro claim
  have refused : (load overreaching "block").result.map AnalysisUnit.source = .error
      (.unbound (.edgeUnranked "B") { file := "block", line := 1, column := 30 }) := by
    decide +kernel
  obtain ⟨offset, behind, named⟩ := claim _ _ _ _ (Outcome.map_eq_error.mp refused)
  have here : offset = 29 := by
    have column : (30 : Int) = (overreaching.take offset).length + 1 := behind.column_eq rfl
    have length : overreaching.length = 50 := by decide
    rw [List.length_take, length] at column
    omega
  subst here
  exact absurd (named "B" rfl) (by decide)

end SchemeTyping.AnalysisUnit
