import SchemeTyping.Proofs.AnalysisUnit.Offsets
import SchemeTyping.Proofs.Text.Numeral

/-! What the grammar makes sure of before anything is bound: names are never empty, an order ranks at
least one qualifier, and positions can be written as they were read. -/
namespace SchemeTyping.AnalysisUnit

/-- Only valid tokens are laid out. -/
theorem Laid.valid {rest text : List Char} {start : Nat} {lexemes : List Lexeme}
    (laid : Laid rest start lexemes text) : ∀ lexeme ∈ lexemes, lexeme.token.Valid := by
  induction laid with
  | done => simp
  | next valid _ _ _ _ ih =>
    intro lexeme member
    rcases List.mem_cons.mp member with rfl | later
    · exact valid
    · exact ih lexeme later

theorem LaidOut.valid {items : List Item} {text : List Char} (laid : LaidOut items text) {item : Item}
    (member : item ∈ items) : ∀ lexeme ∈ item.lexemes, lexeme.token.Valid := by
  obtain ⟨_, _, _, _, tokens⟩ := laid
  exact fun lexeme inside => tokens.valid lexeme (List.mem_flatMap.mpr ⟨item, member, inside⟩)

/-- The declarations that are read from a text are those of the items that it renders. -/
theorem renders_of_parse {text : List Char} {declarations : List Declaration}
    (parsed : parse text = .ok declarations) :
    ∃ items, Renders items text ∧ items.map Item.declaration = declarations := by
  obtain ⟨tree, takes, bounded, rfl⟩ := parse_eq_ok.mp parsed
  obtain ⟨items, laid, seen⟩ := laidOut_of_takes takes
  rw [seen.numerals, numerals_le_iff] at bounded
  exact ⟨items, ⟨laid, bounded⟩, seen.declared.symm⟩

/-- What is known of a hierarchy block before it is bound. -/
structure HierarchyDeclaration.Written (block : HierarchyDeclaration) : Prop where
  named : ∀ mention ∈ block.order, mention.name ≠ ""
  ranks : block.ordered = true → block.order ≠ []

namespace Statement

theorem ranked_ne_nil {statement : Statement} (order : statement.isOrder = true) :
    statement.ranked ≠ [] := by
  cases statement with
  | order first others => simp [ranked]
  | subtype edge => cases order
  | baseline qualifier => cases order

end Statement

theorem name_ne_empty {name : String} (valid : (Token.qualifier name).Valid) : name ≠ "" := by
  obtain ⟨first, more, chars, _⟩ := valid
  rintro rfl
  cases chars

/-- The names in the order of a block are those of its qualifiers. -/
theorem valid_of_statements {offset : Nat} {statements : List Statement} {block : HierarchyDeclaration}
    (valid : ∀ lexeme ∈ (Item.hierarchy offset statements).lexemes, lexeme.token.Valid)
    (declared : (Item.hierarchy offset statements).declaration = .hierarchy block) :
    ∀ mention ∈ block.order, (Token.qualifier mention.name).Valid := by
  obtain rfl := Declaration.hierarchy.inj declared
  intro mention member
  obtain ⟨statement, present, inside⟩ := List.mem_flatMap.mp member
  refine valid mention.lexeme ?_
  simp only [Item.lexemes, List.mem_append, List.mem_flatMap]
  exact .inl (.inr ⟨statement, present, Statement.lexeme_of_ranked inside⟩)

theorem written_of_statements {offset : Nat} {statements : List Statement} {block : HierarchyDeclaration}
    (valid : ∀ lexeme ∈ (Item.hierarchy offset statements).lexemes, lexeme.token.Valid)
    (declared : (Item.hierarchy offset statements).declaration = .hierarchy block) :
    block.Written := by
  refine ⟨fun mention member => name_ne_empty (valid_of_statements valid declared mention member), ?_⟩
  obtain rfl := Declaration.hierarchy.inj declared
  intro ordered empty
  obtain ⟨statement, present, order⟩ := List.any_eq_true.mp ordered
  exact Statement.ranked_ne_nil order (List.flatMap_eq_nil_iff.mp empty statement present)

/-- The blocks that are read from a text are those of its items. -/
theorem exists_statements_of_parse {text : List Char} {declarations : List Declaration}
    (parsed : parse text = .ok declarations) {block : HierarchyDeclaration}
    (member : block ∈ hierarchyBlocks declarations) : ∃ offset statements,
      (∀ lexeme ∈ (Item.hierarchy offset statements).lexemes, lexeme.token.Valid) ∧
      (Item.hierarchy offset statements).declaration = .hierarchy block := by
  obtain ⟨items, ⟨laid, _⟩, rfl⟩ := renders_of_parse parsed
  obtain ⟨declaration, present, own⟩ := List.mem_filterMap.mp member
  obtain ⟨item, inside, rfl⟩ := List.mem_map.mp present
  cases item with
  | hierarchy offset statements =>
    exact ⟨offset, statements, laid.valid inside, congrArg _ (Option.some.inj own)⟩
  | reference declaration => cases own
  | constraint written => cases own

theorem written_of_parse {text : List Char} {declarations : List Declaration}
    (parsed : parse text = .ok declarations) :
    ∀ block ∈ hierarchyBlocks declarations, block.Written := by
  intro block member
  obtain ⟨_, _, valid, declared⟩ := exists_statements_of_parse parsed member
  exact written_of_statements valid declared

theorem value_le_nine {digit : Char} (decimal : Grammar.isDigit digit = true) :
    digit.toNat - '0'.toNat ≤ 9 := by
  simp only [Grammar.isDigit, Bool.and_eq_true, decide_eq_true_eq, Char.le_def,
    UInt32.le_iff_toNat_le] at decimal
  exact Nat.sub_le_sub_right decimal.2 _

/-- Decimal digits stand for a number with at most as many digits. -/
theorem ofDigits_lt {digits : List Char} (decimal : ∀ digit ∈ digits, Grammar.isDigit digit = true) :
    ofDigits digits < 10 ^ digits.length := by
  have bounded : ∀ number, digits.foldl
      (fun number digit => number * 10 + (digit.toNat - '0'.toNat)) number <
        (number + 1) * 10 ^ digits.length := by
    induction digits with
    | nil => simp
    | cons digit rest ih =>
      intro number
      have value := value_le_nine (decimal digit List.mem_cons_self)
      rw [List.foldl_cons, List.length_cons, Nat.pow_succ]
      calc _ < (number * 10 + (digit.toNat - '0'.toNat) + 1) * 10 ^ rest.length :=
            ih (fun other member => decimal other (List.mem_cons_of_mem _ member)) _
        _ ≤ ((number + 1) * 10) * 10 ^ rest.length := Nat.mul_le_mul_right _ (by omega)
        _ = (number + 1) * (10 ^ rest.length * 10) := by
            rw [Nat.mul_assoc, Nat.mul_comm 10]
  simpa [ofDigits] using bounded 0

/-- The positions that are read from a text can be written. -/
theorem hasNumeral_of_parse {text : List Char} {declarations : List Declaration}
    (parsed : parse text = .ok declarations) {declaration : ConstraintDeclaration}
    (member : .constraint declaration ∈ declarations) :
    Text.hasNumeral declaration.position = true := by
  obtain ⟨items, ⟨laid, bounded⟩, rfl⟩ := renders_of_parse parsed
  obtain ⟨item, inside, own⟩ := List.mem_map.mp member
  cases item with
  | hierarchy offset statements => cases own
  | reference declaration => cases own
  | constraint written =>
    obtain rfl := Declaration.constraint.inj own
    have valid : (Token.digits written.digits).Valid :=
      laid.valid inside ⟨.digits written.digits, none⟩ (by simp [Item.lexemes])
    exact Text.hasNumeral_iff.mpr (Nat.lt_of_lt_of_le (ofDigits_lt valid.2)
      (Nat.pow_le_pow_right (by decide) (bounded written inside)))

end SchemeTyping.AnalysisUnit
