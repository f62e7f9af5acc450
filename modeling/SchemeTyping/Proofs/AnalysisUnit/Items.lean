import SchemeTyping.Proofs.AnalysisUnit.References

/-! The spellings of items: hierarchy blocks, reference declarations and constraint declarations. The
tree of an item keeps what its declaration leaves out: the statements of a block, the digits of a
position, and whether there is a label. -/
namespace SchemeTyping.AnalysisUnit
open Peg Grammar

namespace Item

/-- The item that a match tree stands for. -/
def ofTree? : Tree → Option Item
  | .node .item _ _ [.node .hierarchyBlock start _ (_ :: statements)] =>
    some (.hierarchy start (statements.filterMap Statement.ofTree?))
  | .node .item _ _ [.node .refDecl start _ (_ :: identifier :: kind :: set :: options)] =>
    match Read.identifier? identifier, Read.kind? kind with
    | some identifier, some kind => some (.reference
        ⟨start, identifier, kind, Read.qualifierSet set, options.filterMap Read.option?⟩)
    | _, _ => none
  | .node .item _ _ [.node .constraintDecl start _
      (_ :: left :: right :: .node .integer _ _ [.word digits] :: rest)] =>
    match Read.identifier? left, Read.identifier? right with
    | some left, some right => some (.constraint
        ⟨start, left, right, digits, rest.findSome? Read.severity?, rest.findSome? Read.string?⟩)
    | _, _ => none
  | _ => none

/-- The digits that an item is written with. -/
def numerals : Item → List (List Char)
  | .constraint written => [written.digits]
  | _ => []

/-- A tree shows an item if it reads as the item and as its declaration, and holds its digits. -/
structure Shows (item : Item) (tree : Tree) : Prop where
  read : ofTree? tree = some item
  declared : Read.item? tree = some item.declaration
  numerals : tree.wordsOf .integer = item.numerals

/-- The trees are those below a node that shows an item. -/
def ShowsBelow (item : Item) (trees : List Tree) : Prop :=
  ∀ start stop, item.Shows (.node .item start stop trees)

theorem wordsOf_node (start stop : Nat) (trees : List Tree) :
    (Peg.Tree.node Rule.item start stop trees).wordsOf .integer = wordsOfAll .integer trees := by
  simp [Tree.wordsOf]

theorem lexemes_ne_nil (item : Item) : item.lexemes ≠ [] := by
  cases item with
  | hierarchy offset statements => simp [lexemes]
  | reference declaration => simp [lexemes]
  | constraint written => simp [lexemes]

end Item

theorem spells_hierarchyBlock :
    Spells hierarchyBlock
      (fun (block : Nat × List Statement) => (Item.hierarchy block.1 block.2).ShowsBelow)
      (fun block => (Item.hierarchy block.1 block.2).lexemes) Free := by
  have statements := spells_hierarchyStmt.star Statement.lexemes_ne_nil fun _ => trivial
  have body := (spells_keyword .kwHierarchy "hierarchy" (by decide)).andThen
    ((spells_mark "\x7b" (by decide)).andThen
      (statements.both (spells_mark "\x7d" (by decide)) fun laid _ =>
        ⟨trivial, (laid.begins_eq _).trans (by decide)⟩))
  have block := (body.assoc.placed .hierarchyBlock fun _ => ⟨.keyword "hierarchy", _, rfl⟩).silent
    (by decide)
  refine block.map (fun value => (value.1, value.2.2.2.1)) ?_ ?_
    (fun value => ⟨(value.1, (), (), value.2, ()), rfl⟩) id
  · rintro ⟨offset, _, _, statements, _⟩ trees ⟨⟨stop, inner, rfl, _, _, rfl, ⟨word, rfl⟩, _, _, rfl,
      rfl, children, _, rfl, all, rfl⟩, silent⟩
    have read := filterMap_of_forall₂ all
    refine fun _ _ => ⟨?_, ?_, (Item.wordsOf_node _ _ _).trans silent⟩
    · simp [Item.ofTree?, read]
    · simp [Read.item?, foldl_statement all, foldl_enter, Item.declaration]
  · rintro ⟨offset, _, _, statements, _⟩
    simp [placeFirst, Item.lexemes]

theorem spells_refDecl :
    Spells refDecl (fun declaration => (Item.reference declaration).ShowsBelow)
      (fun declaration => (Item.reference declaration).lexemes) Free := by
  have options := spells_refOption.star OptionDeclaration.lexemes_ne_nil
    fun {option} _ _ _ laid => by
      obtain ⟨key, value, offset⟩ := option
      cases key with
      | _ => exact laid.follows (noIdentifier_of_chars (by decide) (by decide))
  have body := (spells_keyword .kwRef "ref" (by decide)).andThen
    (spells_identifier.both
      ((spells_mark ":" (by decide)).andThen (spells_refKind.andThen (spells_qualSet.andThen
        (options.both (spells_mark ";" (by decide)) fun laid _ =>
          ⟨laid.follows (noIdentifier_of_chars (by decide) (by decide)),
            (laid.begins_eq _).trans (by decide)⟩))))
      fun laid _ => laid.follows (noIdentifier_of_chars (by decide) (by decide)))
  have reference := (body.assoc.placed .refDecl fun _ => ⟨.keyword "ref", _, rfl⟩).silent (by decide)
  refine reference.map
    (fun ⟨offset, _, identifier, _, kind, mentions, options, _⟩ =>
      ⟨offset, identifier, kind, mentions, options⟩) ?_ ?_
    (fun declaration => ⟨(declaration.offset, (), declaration.identifier, (), declaration.kind,
      declaration.qualifiers, declaration.options, ()), rfl⟩) id
  · rintro ⟨offset, _, identifier, _, kind, mentions, options, _⟩ trees ⟨⟨stop, inner, rfl, _, _, rfl,
      ⟨word, rfl⟩, _, _, rfl, ⟨identifierTree, rfl, named⟩, _, _, rfl, rfl, _, _, rfl,
      ⟨kindTree, rfl, ofKind⟩, _, _, rfl, ⟨setTree, rfl, ofSet⟩, children, _, rfl, all, rfl⟩, silent⟩
    have read := filterMap_of_forall₂ all
    refine fun _ _ => ⟨?_, ?_, (Item.wordsOf_node _ _ _).trans silent⟩
    · simp [Item.ofTree?, named, ofKind, ofSet, read]
    · simp [Read.item?, Item.declaration, named, ofKind, ofSet, read]
  · rintro ⟨offset, _, identifier, _, kind, mentions, options, _⟩
    simp [placeFirst, Item.lexemes]

theorem severity?_of_string? {tree : Tree} {text : String} (seen : Read.string? tree = some text) :
    Read.severity? tree = none := by
  unfold Read.string? at seen
  split at seen
  · rfl
  · cases seen

theorem string?_of_severity? {tree : Tree} {severity : Severity}
    (seen : Read.severity? tree = some severity) : Read.string? tree = none := by
  unfold Read.severity? at seen
  split at seen
  · rfl
  · cases seen

/-- The severity and the label after a position, and the end of the declaration. -/
def remarksExpr : Expr := .both (.optional Grammar.severity) (.both (.optional string) (mark ";"))

theorem spells_remarks :
    Spells remarksExpr
      (fun (value : Option Severity × Option String) trees =>
        trees.findSome? Read.severity? = value.1 ∧ trees.findSome? Read.string? = value.2)
      (fun value => value.1.toList.map (fun severity => ⟨.keyword severity.label, none⟩) ++
        value.2.toList.map (fun label => ⟨.quoted label, none⟩) ++ [⟨.mark ";", none⟩]) Free := by
  have label := spells_string.optional.both (spells_mark ";" (by decide)) fun laid _ =>
    ⟨trivial, (laid.begins_eq _).trans (by decide)⟩
  have body := spells_severity.optional.both label fun {value} _ _ _ laid _ => by
    obtain ⟨text, _⟩ := value
    cases text with
    | none => exact ⟨trivial, (laid.begins_eq _).trans (by decide)⟩
    | some text => exact ⟨trivial, (laid.begins_eq _).trans rfl⟩
  refine body.map (fun value => (value.1, value.2.1)) ?_ ?_
    (fun value => ⟨(value.1, value.2, ()), rfl⟩) id
  · rintro ⟨severity, text, _⟩ trees ⟨first, _, rfl, ofSeverity, second, _, rfl, ofText, rfl⟩
    cases severity with
    | none =>
      cases ofSeverity
      cases text with
      | none =>
        cases ofText
        exact ⟨rfl, rfl⟩
      | some text =>
        obtain ⟨tree, rfl, seen⟩ := ofText
        simp [seen, severity?_of_string? seen]
    | some severity =>
      obtain ⟨severityTree, rfl, shown⟩ := ofSeverity
      cases text with
      | none =>
        cases ofText
        simp [shown, string?_of_severity? shown]
      | some text =>
        obtain ⟨tree, rfl, seen⟩ := ofText
        simp [seen, shown, string?_of_severity? shown]
  · rintro ⟨severity, text, _⟩
    cases severity with
    | none =>
      cases text with
      | none => rfl
      | some text => rfl
    | some severity =>
      cases text with
      | none => rfl
      | some text => rfl

theorem spells_constraintDecl :
    Spells constraintDecl (fun written => (Item.constraint written).ShowsBelow)
      (fun written => (Item.constraint written).lexemes) Free := by
  have word := (spells_keyword .kwConstraint "constraint" (by decide)).silent (by decide)
  have identifier := spells_identifier.silent (by decide)
  have position := spells_integer.both (spells_remarks.silent (by decide))
      fun {value} _ _ _ laid _ => by
    obtain ⟨severity, text⟩ := value
    cases severity with
    | none =>
      cases text with
      | none => exact laid.follows (noDigit_of_chars (by decide))
      | some text => exact laid.follows (noDigit_of_chars rfl)
    | some severity =>
      cases severity with
      | error => exact laid.follows (noDigit_of_chars rfl)
      | warning => exact laid.follows (noDigit_of_chars rfl)
  have right := identifier.both ((spells_mark "@" (by decide)).andThen position) fun laid _ =>
    laid.follows (noIdentifier_of_chars (by decide) (by decide))
  have left := identifier.both ((spells_mark "<:" (by decide)).andThen right) fun laid _ =>
    laid.follows (noIdentifier_of_chars (by decide) (by decide))
  have body := (word.andThen left).assoc.placed .constraintDecl
    fun _ => ⟨.keyword "constraint", _, rfl⟩
  refine body.map
    (fun ⟨offset, _, left, _, right, _, digits, severity, label⟩ =>
      ⟨offset, left, right, digits, severity, label⟩) ?_ ?_
    (fun written => ⟨(written.offset, (), written.left, (), written.right, (), written.digits,
      written.severity, written.label), rfl⟩) id
  · rintro ⟨offset, _, left, _, right, _, digits, severity, label⟩ trees ⟨stop, inner, rfl, _, _, rfl,
      ⟨⟨word, rfl⟩, silentWord⟩, _, _, rfl, ⟨⟨leftTree, rfl, ofLeft⟩, silentLeft⟩, _, _, rfl, rfl, _, _,
      rfl, ⟨⟨rightTree, rfl, ofRight⟩, silentRight⟩, _, _, rfl, rfl, _, rest, rfl,
      ⟨first, last, rfl⟩, ⟨ofSeverity, ofLabel⟩, silentRest⟩
    refine fun _ _ => ⟨?_, ?_, ?_⟩
    · simp [Item.ofTree?, ofLeft, ofRight, ofSeverity, ofLabel]
    · simp [Read.item?, Item.declaration, Read.integer?, Read.remarks, ofLeft, ofRight, ofSeverity,
        ofLabel]
    -- only the position names an integer, so its digits are all that is read
    · simp only [wordsOfAll, List.append_nil] at silentWord silentLeft silentRight
      rw [Item.wordsOf_node]
      simp [Item.numerals, wordsOfAll, Tree.wordsOf, silentWord, silentLeft, silentRight, silentRest]
  · rintro ⟨offset, _, left, _, right, _, digits, severity, label⟩
    simp [placeFirst, Item.lexemes]

theorem spells_item :
    Spells item (fun item trees => ∃ tree, trees = [tree] ∧ item.Shows tree) Item.lexemes Free := by
  let make : (Nat × List Statement) ⊕ ReferenceDeclaration ⊕ WrittenConstraint → Item :=
    Sum.elim (fun block => .hierarchy block.1 block.2) (Sum.elim .reference .constraint)
  have onto : ∀ item, ∃ value, make value = item := by
    intro item
    cases item with
    | hierarchy offset statements => exact ⟨.inl (offset, statements), rfl⟩
    | reference declaration => exact ⟨.inr (.inl declaration), rfl⟩
    | constraint written => exact ⟨.inr (.inr written), rfl⟩
  have body : Spells (.either hierarchyBlock (.either refDecl constraintDecl)) Item.ShowsBelow
      Item.lexemes _ :=
    Spells.choice make onto spells_hierarchyBlock spells_refDecl spells_constraintDecl
      (fun laid => (laid.begins_eq _).trans (by decide))
      fun laid => ⟨(laid.begins_eq _).trans (by decide), (laid.begins_eq _).trans (by decide)⟩
  refine (body.named .item).shown ?_ fun _ => ⟨trivial, trivial, trivial⟩
  rintro item trees ⟨start, stop, inner, rfl, seen⟩
  exact ⟨_, rfl, seen start stop⟩

end SchemeTyping.AnalysisUnit
