import SchemeTyping.AnalysisUnit.Binding
import SchemeTyping.Proofs.AnalysisUnit.Parsing

/-! Offsets: declarations and their parts record where they stand. All of these places lie within the
text, and the same items stand as much later as the text before them is longer. -/
namespace SchemeTyping.AnalysisUnit

/-! The offsets that declarations record. -/

def HierarchyDeclaration.offsets (block : HierarchyDeclaration) : List Nat :=
  block.offset :: (block.order.map Mention.offset ++ block.edges.map EdgeDeclaration.offset ++
    block.baseline.toList.map Mention.offset)

def ReferenceDeclaration.offsets (declaration : ReferenceDeclaration) : List Nat :=
  declaration.offset :: (declaration.qualifiers.map Mention.offset ++
    declaration.options.map OptionDeclaration.offset)

def Declaration.offsets : Declaration → List Nat
  | .hierarchy block => block.offsets
  | .reference declaration => declaration.offsets
  | .constraint declaration => [declaration.offset]

/-! Lexemes, declarations and items that stand further on. -/

def Lexeme.move (distance : Nat) (lexeme : Lexeme) : Lexeme :=
  { lexeme with offset := lexeme.offset.map (· + distance) }

def Mention.move (distance : Nat) (mention : Mention) : Mention :=
  { mention with offset := mention.offset + distance }

def EdgeDeclaration.move (distance : Nat) (edge : EdgeDeclaration) : EdgeDeclaration :=
  { edge with offset := edge.offset + distance }

def OptionDeclaration.move (distance : Nat) (option : OptionDeclaration) : OptionDeclaration :=
  { option with offset := option.offset + distance }

def HierarchyDeclaration.move (distance : Nat) (block : HierarchyDeclaration) : HierarchyDeclaration :=
  { block with
    offset := block.offset + distance
    order := block.order.map (Mention.move distance)
    edges := block.edges.map (EdgeDeclaration.move distance)
    baseline := block.baseline.map (Mention.move distance) }

def ReferenceDeclaration.move (distance : Nat) (declaration : ReferenceDeclaration) :
    ReferenceDeclaration :=
  { declaration with
    offset := declaration.offset + distance
    qualifiers := declaration.qualifiers.map (Mention.move distance)
    options := declaration.options.map (OptionDeclaration.move distance) }

def Declaration.move (distance : Nat) : Declaration → Declaration
  | .hierarchy block => .hierarchy (block.move distance)
  | .reference declaration => .reference (declaration.move distance)
  | .constraint declaration =>
    .constraint { declaration with offset := declaration.offset + distance }

def Statement.move (distance : Nat) : Statement → Statement
  | .order first others => .order (first.move distance) (others.map (Mention.move distance))
  | .subtype edge => .subtype (edge.move distance)
  | .baseline qualifier => .baseline (qualifier.move distance)

def Item.move (distance : Nat) : Item → Item
  | .hierarchy offset statements =>
    .hierarchy (offset + distance) (statements.map (Statement.move distance))
  | .reference declaration => .reference (declaration.move distance)
  | .constraint written => .constraint { written with offset := written.offset + distance }

variable {distance start : Nat} {taken rest : List Char} {lexemes : List Lexeme}

/-- What is declared further on records offsets that are as much greater. -/
theorem Declaration.offsets_move (declaration : Declaration) :
    (declaration.move distance).offsets = declaration.offsets.map (· + distance) := by
  cases declaration with
  | hierarchy block =>
    simp only [move, offsets, HierarchyDeclaration.offsets, HierarchyDeclaration.move, List.map_cons,
      List.map_append, List.map_map, Option.toList_map]
    rfl
  | reference declaration =>
    simp only [move, offsets, ReferenceDeclaration.offsets, ReferenceDeclaration.move, List.map_cons,
      List.map_append, List.map_map]
    rfl
  | constraint declaration => rfl

/-- Nothing is declared before the distance by which all declarations stand further on. -/
theorem le_of_mem_offsets_move {declarations : List Declaration} {offset : Nat}
    (member : offset ∈ (declarations.map (Declaration.move distance)).flatMap Declaration.offsets) :
    distance ≤ offset := by
  rw [List.flatMap_map] at member
  obtain ⟨declaration, _, inside⟩ := List.mem_flatMap.mp member
  rw [Declaration.offsets_move] at inside
  obtain ⟨before, _, rfl⟩ := List.mem_map.mp inside
  exact Nat.le_add_left ..

theorem hierarchyBlocks_move (declarations : List Declaration) :
    hierarchyBlocks (declarations.map (Declaration.move distance)) =
      (hierarchyBlocks declarations).map (HierarchyDeclaration.move distance) := by
  unfold hierarchyBlocks
  rw [List.filterMap_map, List.map_filterMap]
  refine List.filterMap_congr fun declaration _ => ?_
  cases declaration <;> rfl

/-! Items that stand further on are written as the same tokens. -/

theorem listLexemes_move (first : Mention) (others : List Mention) :
    listLexemes (first.move distance) (others.map (Mention.move distance)) =
      (listLexemes first others).map (Lexeme.move distance) := by
  simp only [listLexemes, List.flatMap_map, List.map_cons, List.map_flatMap]
  rfl

theorem setLexemes_move (mentions : List Mention) :
    setLexemes (mentions.map (Mention.move distance)) =
      (setLexemes mentions).map (Lexeme.move distance) := by
  cases mentions with
  | nil => rfl
  | cons first others =>
    simp only [List.map_cons, setLexemes, listLexemes_move, List.map_append]
    rfl

theorem kindLexemes_move (kind : Kind String) :
    (kindLexemes kind).map (Lexeme.move distance) = kindLexemes kind := by
  cases kind <;> rfl

theorem Statement.lexemes_move (statement : Statement) :
    (statement.move distance).lexemes = statement.lexemes.map (Lexeme.move distance) := by
  cases statement with
  | order first others =>
    simp only [move, lexemes, listLexemes_move, List.map_cons, List.map_append]
    rfl
  | subtype edge => rfl
  | baseline qualifier => rfl

theorem OptionDeclaration.lexemes_move (option : OptionDeclaration) :
    (option.move distance).lexemes = option.lexemes.map (Lexeme.move distance) := by
  obtain ⟨key, value, offset⟩ := option
  cases key <;> rfl

theorem Item.lexemes_move (item : Item) :
    (item.move distance).lexemes = item.lexemes.map (Lexeme.move distance) := by
  cases item with
  | hierarchy offset statements =>
    simp only [move, lexemes, List.flatMap_map, Statement.lexemes_move, List.map_append,
      List.map_flatMap]
    rfl
  | reference declaration =>
    simp only [move, lexemes, ReferenceDeclaration.move, List.flatMap_map,
      OptionDeclaration.lexemes_move, setLexemes_move, List.map_append, List.map_flatMap,
      kindLexemes_move]
    rfl
  | constraint written =>
    simp only [move, lexemes, List.map_append, List.map_map]
    rfl

theorem Item.declaration_move (item : Item) :
    (item.move distance).declaration = item.declaration.move distance := by
  cases item with
  | hierarchy offset statements =>
    have ranked (statement : Statement) : (statement.move distance).ranked =
        statement.ranked.map (Mention.move distance) := by
      cases statement <;> rfl
    have edge (statement : Statement) : (statement.move distance).edge? =
        statement.edge?.map (EdgeDeclaration.move distance) := by
      cases statement <;> rfl
    have baseline (statement : Statement) : (statement.move distance).baseline? =
        statement.baseline?.map (Mention.move distance) := by
      cases statement <;> rfl
    have isOrder (statement : Statement) : (statement.move distance).isOrder = statement.isOrder := by
      cases statement <;> rfl
    simp only [move, declaration, Declaration.move, HierarchyDeclaration.move, List.flatMap_map,
      List.filterMap_map, List.any_map, Function.comp_def, ranked, edge, baseline, isOrder,
      List.map_flatMap, List.map_filterMap, ← List.getLast?_map]
  | reference declaration => rfl
  | constraint written => rfl

theorem bounded_move {items : List Item} (bounded : ∀ written, .constraint written ∈ items →
      written.digits.length ≤ Text.digitLimit) :
    ∀ written, .constraint written ∈ items.map (Item.move distance) →
      written.digits.length ≤ Text.digitLimit := by
  intro written member
  obtain ⟨item, present, same⟩ := List.mem_map.mp member
  cases item with
  | constraint before =>
    cases same
    exact bounded before present
  | _ => cases same

/-! The tokens whose offsets a declaration records. -/

/-- An edge stands where its lower end does. -/
def EdgeDeclaration.lexeme (edge : EdgeDeclaration) : Lexeme := ⟨.qualifier edge.lower, some edge.offset⟩

/-- The token at which an option stands: its qualifier, or else its keyword. -/
def OptionDeclaration.token (option : OptionDeclaration) : Token :=
  match option.key with
  | .crypt => .qualifier option.value
  | .name => .keyword "name"
  | .element => .keyword "element"

def OptionDeclaration.lexeme (option : OptionDeclaration) : Lexeme :=
  ⟨option.token, some option.offset⟩

def HierarchyDeclaration.keyword (block : HierarchyDeclaration) : Lexeme :=
  ⟨.keyword "hierarchy", some block.offset⟩

def ReferenceDeclaration.keyword (declaration : ReferenceDeclaration) : Lexeme :=
  ⟨.keyword "ref", some declaration.offset⟩

def ConstraintDeclaration.keyword (declaration : ConstraintDeclaration) : Lexeme :=
  ⟨.keyword "constraint", some declaration.offset⟩

def HierarchyDeclaration.recorded (block : HierarchyDeclaration) : List Lexeme :=
  block.keyword :: (block.order.map Mention.lexeme ++ block.edges.map EdgeDeclaration.lexeme ++
    block.baseline.toList.map Mention.lexeme)

def ReferenceDeclaration.recorded (declaration : ReferenceDeclaration) : List Lexeme :=
  declaration.keyword :: (declaration.qualifiers.map Mention.lexeme ++
    declaration.options.map OptionDeclaration.lexeme)

def Declaration.recorded : Declaration → List Lexeme
  | .hierarchy block => block.recorded
  | .reference declaration => declaration.recorded
  | .constraint declaration => [declaration.keyword]

theorem filterMap_offset {Part : Type} (lexeme : Part → Lexeme) (offset : Part → Nat)
    (records : ∀ part, (lexeme part).offset = some (offset part)) (parts : List Part) :
    (parts.map lexeme).filterMap Lexeme.offset = parts.map offset := by
  rw [List.filterMap_map, ← List.filterMap_eq_map]
  exact List.filterMap_congr fun part _ => records part

theorem Declaration.offsets_eq (declaration : Declaration) :
    declaration.offsets = declaration.recorded.filterMap Lexeme.offset := by
  have mentions := filterMap_offset Mention.lexeme Mention.offset fun _ => rfl
  have edges := filterMap_offset EdgeDeclaration.lexeme EdgeDeclaration.offset fun _ => rfl
  have options := filterMap_offset OptionDeclaration.lexeme OptionDeclaration.offset fun _ => rfl
  cases declaration with
  | hierarchy block =>
    simp only [offsets, recorded, HierarchyDeclaration.offsets, HierarchyDeclaration.recorded,
      List.filterMap_cons, List.filterMap_append, mentions, edges]
    rfl
  | reference declaration =>
    simp only [offsets, recorded, ReferenceDeclaration.offsets, ReferenceDeclaration.recorded,
      List.filterMap_cons, List.filterMap_append, mentions, options]
    rfl
  | constraint declaration => rfl

theorem listLexemes_subset (first : Mention) (others : List Mention) :
    (first :: others).map Mention.lexeme ⊆ listLexemes first others := by
  intro lexeme member
  obtain ⟨mention, listed, rfl⟩ := List.mem_map.mp member
  rcases List.mem_cons.mp listed with rfl | later
  · exact List.mem_cons_self
  · exact List.mem_cons_of_mem _ (List.mem_flatMap.mpr ⟨mention, later, by simp⟩)

theorem setLexemes_subset (mentions : List Mention) :
    mentions.map Mention.lexeme ⊆ setLexemes mentions := by
  cases mentions with
  | nil => exact List.nil_subset _
  | cons first others =>
    exact fun lexeme member => List.mem_cons_of_mem _
      (List.mem_append_left _ (listLexemes_subset first others member))

namespace Statement
variable {statement : Statement}

theorem lexeme_of_ranked {mention : Mention} (member : mention ∈ statement.ranked) :
    mention.lexeme ∈ statement.lexemes := by
  cases statement with
  | order first others =>
    exact List.mem_cons_of_mem _ (List.mem_append_left _
      (listLexemes_subset first others (List.mem_map_of_mem member)))
  | subtype edge => cases member
  | baseline qualifier => cases member

theorem lexeme_of_edge? {edge : EdgeDeclaration} (stated : statement.edge? = some edge) :
    edge.lexeme ∈ statement.lexemes := by
  cases statement with
  | order first others => cases stated
  | subtype other =>
    cases stated
    exact List.mem_cons_of_mem _ List.mem_cons_self
  | baseline qualifier => cases stated

theorem lexeme_of_baseline? {mention : Mention} (stated : statement.baseline? = some mention) :
    mention.lexeme ∈ statement.lexemes := by
  cases statement with
  | order first others => cases stated
  | subtype edge => cases stated
  | baseline qualifier =>
    cases stated
    exact List.mem_cons_of_mem _ List.mem_cons_self

end Statement

theorem OptionDeclaration.lexeme_mem_lexemes (option : OptionDeclaration) :
    option.lexeme ∈ option.lexemes := by
  obtain ⟨key, value, offset⟩ := option
  cases key with
  | crypt => exact List.mem_cons_of_mem _ List.mem_cons_self
  | name => exact List.mem_cons_self
  | element => exact List.mem_cons_self

/-- The tokens that a declaration records are among those of its item. -/
theorem Item.recorded_subset (item : Item) : item.declaration.recorded ⊆ item.lexemes := by
  intro lexeme member
  cases item with
  | hierarchy offset statements =>
    -- A token of a statement is one of its block.
    have stated : ∀ statement ∈ statements, ∀ lexeme ∈ statement.lexemes,
        lexeme ∈ (Item.hierarchy offset statements).lexemes := fun statement present lexeme inside =>
      List.mem_append_left _ (List.mem_append_right _
        (List.mem_flatMap.mpr ⟨statement, present, inside⟩))
    simp only [declaration, Declaration.recorded, HierarchyDeclaration.recorded, List.mem_cons,
      List.mem_append, List.mem_map, List.mem_flatMap, List.mem_filterMap, Option.mem_toList] at member
    rcases member with rfl | (⟨mention, ⟨statement, present, inside⟩, rfl⟩ |
      ⟨edge, ⟨statement, present, inside⟩, rfl⟩) | ⟨mention, last, rfl⟩
    · exact List.mem_cons_self
    · exact stated statement present _ (Statement.lexeme_of_ranked inside)
    · exact stated statement present _ (Statement.lexeme_of_edge? inside)
    · obtain ⟨statement, present, inside⟩ := List.mem_filterMap.mp (List.mem_of_getLast? last)
      exact stated statement present _ (Statement.lexeme_of_baseline? inside)
  | reference declaration =>
    simp only [lexemes, List.mem_append]
    rcases List.mem_cons.mp member with rfl | inside
    · simp [ReferenceDeclaration.keyword]
    · rcases List.mem_append.mp inside with listed | given
      · exact .inl (.inl (.inr (setLexemes_subset _ listed)))
      · obtain ⟨option, present, rfl⟩ := List.mem_map.mp given
        exact .inl (.inr (List.mem_flatMap.mpr ⟨option, present, option.lexeme_mem_lexemes⟩))
  | constraint written =>
    obtain rfl := List.mem_singleton.mp member
    exact List.mem_append_left _ (List.mem_append_left _ (List.mem_append_left _ List.mem_cons_self))

namespace Laid

/-- A token whose offset is recorded stands there. -/
theorem stands {lead : List Char} (laid : Laid rest lead.length lexemes taken) {lexeme : Lexeme}
    (member : lexeme ∈ lexemes) {offset : Nat} (recorded : lexeme.offset = some offset) :
    lexeme.token.chars <+: (lead ++ taken).drop offset := by
  generalize starts : lead.length = start at laid
  induction laid generalizing lead with
  | done => cases member
  | @next start first lexemes gap later valid placed gapped apart more ih =>
    rcases List.mem_cons.mp member with rfl | behind
    · have here : offset = lead.length := (placed offset recorded).trans starts.symm
      rw [here, List.drop_left, List.append_assoc]
      exact List.prefix_append _ _
    · have starts : (lead ++ (first.token.chars ++ gap)).length =
          start + first.token.chars.length + gap.length := by
        simp only [List.length_append]
        omega
      have further := ih behind starts
      rwa [List.append_assoc] at further

/-- The same lexemes may be laid out further on. -/
theorem move (laid : Laid rest start lexemes taken) :
    Laid rest (start + distance) (lexemes.map (Lexeme.move distance)) taken := by
  induction laid with
  | done => exact .done
  | @next start lexeme lexemes gap later valid placed gapped apart more ih =>
    refine .next valid (fun offset recorded => ?_) gapped apart ?_
    · obtain ⟨before, present, rfl⟩ := Option.map_eq_some_iff.mp recorded
      rw [placed before present]
    · have further : start + distance + lexeme.token.chars.length + gap.length =
          start + lexeme.token.chars.length + gap.length + distance := by omega
      exact further ▸ ih

end Laid
end SchemeTyping.AnalysisUnit
