import SchemeTyping.Proofs.AnalysisUnit.Tokens

/-! The spellings of lists of qualifiers, of statements and of the hierarchy blocks that hold them. -/
namespace SchemeTyping.AnalysisUnit
open Peg Grammar

/-- No comma follows. -/
def NoComma (next : Option Char) : Prop := (next == some ',') = false

theorem spells_listed :
    Spells (.both (mark ",") qualifier) (Reads Read.mention?)
      (fun mention => [⟨.mark ",", none⟩, mention.lexeme]) Free := by
  refine ((spells_mark "," (by decide)).andThen spells_qualifier).map Prod.snd ?_ (fun _ => rfl)
    (fun mention => ⟨((), mention), rfl⟩) id
  rintro ⟨_, mention⟩ trees ⟨left, right, rfl, rfl, seen⟩
  exact seen

/-- A list of qualifiers shows as one tree with all of them. -/
theorem spells_qualList :
    Spells qualList
      (fun (list : Mention × List Mention) trees => ∃ tree, trees = [tree] ∧
        Read.mentions tree = list.1 :: list.2)
      (fun list => listLexemes list.1 list.2) NoComma := by
  have others := spells_listed.star (by simp) fun _ => trivial
  refine ((spells_qualifier.andThen others).named .qualList).shown ?_ fun silent => ⟨trivial, silent⟩
  rintro ⟨first, others⟩ trees ⟨start, stop, inner, rfl, left, right, rfl, ⟨tree, rfl, seen⟩, all⟩
  refine ⟨_, rfl, ?_⟩
  rw [Read.mentions, List.singleton_append, List.filterMap_cons_some seen, filterMap_of_forall₂ all]

/-- The statement that a match tree stands for. -/
def Statement.ofTree? : Tree → Option Statement
  | .node .hierarchyStmt _ _ [.node .orderStmt _ _ [_, list]] =>
    match Read.mentions list with
    | [] => none
    | first :: others => some (.order first others)
  | .node .hierarchyStmt _ _ [.node .subtypeStmt _ _ [_, lower, upper]] =>
    match Read.mention? lower, Read.mention? upper with
    | some lower, some upper => some (.subtype ⟨lower.name, upper.name, lower.offset⟩)
    | _, _ => none
  | .node .hierarchyStmt _ _ [.node .baselineStmt _ _ [_, qualifier]] =>
    (Read.mention? qualifier).map .baseline
  | _ => none

/-- A block with one more statement. -/
def Statement.enter (block : HierarchyDeclaration) (statement : Statement) : HierarchyDeclaration where
  offset := block.offset
  order := block.order ++ statement.ranked
  edges := block.edges ++ statement.edge?.toList
  baseline := statement.baseline?.or block.baseline
  ordered := block.ordered || statement.isOrder

/-- The tree of a statement is taken up as that statement. -/
theorem statement_of_ofTree? {tree : Tree} {statement : Statement}
    (seen : Statement.ofTree? tree = some statement) (block : HierarchyDeclaration) :
    Read.statement block tree = statement.enter block := by
  unfold Statement.ofTree? at seen
  split at seen
  · split at seen
    · cases seen
    · next same =>
      cases seen
      simp [Read.statement, Statement.enter, Statement.ranked, Statement.edge?, Statement.baseline?,
        Statement.isOrder, same]
  · split at seen
    · next lower upper =>
      cases seen
      simp [Read.statement, Statement.enter, Statement.ranked, Statement.edge?, Statement.baseline?,
        Statement.isOrder, lower, upper]
    · cases seen
  · obtain ⟨mention, found, rfl⟩ := Option.map_eq_some_iff.mp seen
    simp [Read.statement, Statement.enter, Statement.ranked, Statement.edge?, Statement.baseline?,
      Statement.isOrder, found]
  · cases seen

theorem foldl_statement {statements : List Statement} {trees : List Tree}
    (all : List.Forall₂ (fun statement tree => Statement.ofTree? tree = some statement) statements trees)
    (block : HierarchyDeclaration) :
    trees.foldl Read.statement block = statements.foldl Statement.enter block := by
  induction all generalizing block with
  | nil => rfl
  | cons seen _ ih => rw [List.foldl_cons, List.foldl_cons, statement_of_ofTree? seen, ih]

/-- Entering statements one after the other merges them. -/
theorem foldl_enter (statements : List Statement) (block : HierarchyDeclaration) :
    statements.foldl Statement.enter block = {
      offset := block.offset
      order := block.order ++ statements.flatMap Statement.ranked
      edges := block.edges ++ statements.filterMap Statement.edge?
      baseline := (statements.filterMap Statement.baseline?).getLast?.or block.baseline
      ordered := block.ordered || statements.any Statement.isOrder } := by
  induction statements generalizing block with
  | nil => simp
  | cons statement statements ih =>
    rw [List.foldl_cons, ih]
    cases statement with
    | order first others =>
      simp [Statement.enter, Statement.ranked, Statement.edge?, Statement.baseline?,
        Statement.isOrder, List.filterMap_cons]
    | subtype edge =>
      simp [Statement.enter, Statement.ranked, Statement.edge?, Statement.baseline?,
        Statement.isOrder, List.filterMap_cons]
    | baseline mention =>
      simp [Statement.enter, Statement.ranked, Statement.edge?, Statement.baseline?,
        Statement.isOrder, List.filterMap_cons, List.getLast?_cons]

theorem Statement.lexemes_ne_nil (statement : Statement) : statement.lexemes ≠ [] := by
  cases statement with
  | order first others => simp [Statement.lexemes]
  | subtype edge => simp [Statement.lexemes]
  | baseline mention => simp [Statement.lexemes]

theorem spells_orderStmt :
    Spells orderStmt
      (fun (list : Mention × List Mention) =>
        Below .hierarchyStmt Statement.ofTree? (.order list.1 list.2))
      (fun list => (Statement.order list.1 list.2).lexemes) Free := by
  have body := (spells_keyword .kwOrder "order" (by decide)).andThen
    (spells_qualList.both (spells_mark ";" (by decide)) fun laid _ => laid.follows rfl)
  refine (body.assoc.named .orderStmt).map (fun value => value.2.1) ?_ (fun _ => rfl)
    (fun list => ⟨((), list, ()), rfl⟩) id
  rintro ⟨_, list, _⟩ trees ⟨start, stop, inner, rfl, left, right, rfl, ⟨word, rfl⟩, middle, last,
    rfl, ⟨tree, rfl, seen⟩, rfl⟩ _ _
  simp [Statement.ofTree?, seen]

theorem spells_subtypeStmt :
    Spells subtypeStmt (fun edge => Below .hierarchyStmt Statement.ofTree? (.subtype edge))
      (fun edge => (Statement.subtype edge).lexemes) Free := by
  have body := (spells_keyword .kwSubtype "subtype" (by decide)).andThen
    (spells_qualifier.andThen ((spells_mark "<:" (by decide)).andThen
      (spells_qualifierName.andThen (spells_mark ";" (by decide)))))
  refine (body.assoc.named .subtypeStmt).map
    (fun ⟨_, lower, _, upper, _⟩ => ⟨lower.name, upper, lower.offset⟩) ?_ (fun _ => rfl)
    (fun edge => ⟨((), ⟨edge.lower, edge.offset⟩, (), edge.upper, ()), rfl⟩) id
  rintro ⟨_, lower, _, upper, _⟩ trees ⟨start, stop, inner, rfl, _, _, rfl, ⟨word, rfl⟩, _, _, rfl,
    ⟨lowerTree, rfl, seen⟩, _, _, rfl, rfl, _, _, rfl, ⟨upperTree, rfl, seenUpper⟩, rfl⟩ _ _
  obtain ⟨mention, found, rfl⟩ := Option.map_eq_some_iff.mp seenUpper
  simp [Statement.ofTree?, seen, found]

theorem spells_baselineStmt :
    Spells baselineStmt (fun mention => Below .hierarchyStmt Statement.ofTree? (.baseline mention))
      (fun mention => (Statement.baseline mention).lexemes) Free := by
  have body := (spells_keyword .kwBaseline "baseline" (by decide)).andThen
    (spells_qualifier.andThen (spells_mark ";" (by decide)))
  refine (body.assoc.named .baselineStmt).map (fun value => value.2.1) ?_ (fun _ => rfl)
    (fun mention => ⟨((), mention, ()), rfl⟩) id
  rintro ⟨_, mention, _⟩ trees ⟨start, stop, inner, rfl, _, _, rfl, ⟨word, rfl⟩, _, _, rfl,
    ⟨tree, rfl, seen⟩, rfl⟩ _ _
  simp [Statement.ofTree?, seen]

theorem spells_hierarchyStmt :
    Spells hierarchyStmt (Reads Statement.ofTree?) Statement.lexemes Free := by
  let make : (Mention × List Mention) ⊕ EdgeDeclaration ⊕ Mention → Statement :=
    Sum.elim (fun list => .order list.1 list.2) (Sum.elim .subtype .baseline)
  have onto : ∀ statement, ∃ value, make value = statement := by
    intro statement
    cases statement with
    | order first others => exact ⟨.inl (first, others), rfl⟩
    | subtype edge => exact ⟨.inr (.inl edge), rfl⟩
    | baseline mention => exact ⟨.inr (.inr mention), rfl⟩
  have body : Spells (.either orderStmt (.either subtypeStmt baselineStmt))
      (Below .hierarchyStmt Statement.ofTree?) Statement.lexemes _ :=
    Spells.choice make onto spells_orderStmt spells_subtypeStmt spells_baselineStmt
      (fun laid => (laid.begins_eq _).trans (by decide))
      fun laid => ⟨(laid.begins_eq _).trans (by decide), (laid.begins_eq _).trans (by decide)⟩
  exact Spells.reads (body.shown id fun _ => ⟨trivial, trivial, trivial⟩)

end SchemeTyping.AnalysisUnit
