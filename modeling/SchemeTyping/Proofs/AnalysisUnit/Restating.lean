import SchemeTyping.Proofs.AnalysisUnit.Blocks
import SchemeTyping.Proofs.AnalysisUnit.Refusals

/-! Restating hierarchies: the description of a hierarchy, read as a block, gives the hierarchy back. Its
lines are written out as tokens from any offset on, whatever follows. -/
namespace SchemeTyping.AnalysisUnit
variable {start : Nat} {gap : List Char}

/-- A line of a description as a statement: without its first colon, and with a semicolon behind. -/
def statementOf (line : String) : List Char := line.toList.erase ':' ++ [';']

/-- Statements as a hierarchy block, with a gap before, between and behind them. -/
def blockOf (gap : List Char) (statements : List (List Char)) : List Char :=
  "hierarchy".toList ++ [' ', '\x7b'] ++ gap ++ statements.flatMap (· ++ gap) ++ ['\x7d']

/-- The description of a hierarchy as a hierarchy block. -/
def restate (gap : List Char) (hierarchy : Hierarchy) : List Char :=
  blockOf gap (hierarchy.describe.map statementOf)

/-- A text writes lexemes from an offset on: with whatever is laid out behind it they are laid out. -/
def Writes (start : Nat) (lexemes : List Lexeme) (text : List Char) : Prop :=
  ∀ rest more later, Laid rest (start + text.length) more later →
    Laid rest start (lexemes ++ more) (text ++ later)

namespace Writes
variable {first second : List Lexeme} {front back : List Char}

theorem nil (start : Nat) : Writes start [] [] := fun _ _ _ laid => laid

theorem append (before : Writes start first front) (behind : Writes (start + front.length) second back) :
    Writes start (first ++ second) (front ++ back) := by
  intro rest more later laid
  rw [List.append_assoc, List.append_assoc]
  refine before _ _ _ (behind _ _ _ ?_)
  rwa [Nat.add_assoc, ← List.length_append]

/-- A token with a blank behind it. -/
theorem spaced {lexeme : Lexeme} (valid : lexeme.token.Valid)
    (placed : ∀ offset ∈ lexeme.offset, offset = start) :
    Writes start [lexeme] (lexeme.token.chars ++ [' ']) := by
  intro rest more later laid
  rw [List.length_append, ← Nat.add_assoc] at laid
  exact .next valid placed (.blank (by decide) .nothing) (fun _ bare => nomatch bare) laid

/-- A mark with layout behind it. -/
theorem mark {chars : String} (known : chars ∈ Token.marks) (gapped : Layout False gap) :
    Writes start [⟨.mark chars, none⟩] (chars.toList ++ gap) := by
  intro rest more later laid
  rw [List.length_append, ← Nat.add_assoc] at laid
  exact .next known (by simp) (gapped.mono False.elim) (fun runs => nomatch runs) laid

/-- A token right before a mark. -/
theorem marked {lexeme : Lexeme} {chars : String} {char : Char} {others : List Char}
    (valid : lexeme.token.Valid) (placed : ∀ offset ∈ lexeme.offset, offset = start)
    (known : chars ∈ Token.marks) (begins : chars.toList = char :: others)
    (apart : Grammar.continuesQualifier char = false) (gapped : Layout False gap) :
    Writes start [lexeme, ⟨.mark chars, none⟩] (lexeme.token.chars ++ (chars.toList ++ gap)) := by
  intro rest more later laid
  rw [List.length_append, ← Nat.add_assoc] at laid
  have behind := mark known gapped rest more later laid
  rw [List.append_assoc, ← List.append_nil lexeme.token.chars]
  refine .next valid placed .nothing (fun _ _ => ?_) behind
  rw [begins]
  rintro _ ⟨⟩
  exact apart

/-- A keyword with a blank behind it. -/
theorem word (start : Nat) (word : String) (known : word ∈ Token.keywords) :
    Writes start [⟨.keyword word, none⟩] (word.toList ++ [' ']) :=
  spaced known (by simp)

/-- A qualifier with a comma and a blank behind it. -/
theorem continued (start : Nat) {name : String} (valid : (Token.qualifier name).Valid) :
    Writes start [(Mention.mk name start).lexeme, ⟨.mark ",", none⟩]
      (name.toList ++ (",".toList ++ [' '])) :=
  marked valid (fun _ own => (Option.mem_some_iff.mp own).symm) (by decide) rfl (by decide)
    (.blank (by decide) .nothing)

/-- A qualifier at the end of a statement. -/
theorem ended {lexeme : Lexeme} (valid : lexeme.token.Valid)
    (placed : ∀ offset ∈ lexeme.offset, offset = start) (gapped : Layout False gap) :
    Writes start [lexeme, ⟨.mark ";", none⟩] (lexeme.token.chars ++ (";".toList ++ gap)) :=
  marked valid placed (by decide) rfl (by decide) gapped

end Writes

section Statements
variable {first : String} {others : List String} {edge : Edge} {edges : List Edge}

theorem statementOf_order (text : String) : statementOf ("order: " ++ text) =
    "order".toList ++ [' '] ++ (text.toList ++ ";".toList) := by
  simp [statementOf]

theorem statementOf_subtype (edge : Edge) :
    statementOf ("subtype: " ++ edge.lower ++ " <: " ++ edge.upper) =
      "subtype".toList ++ [' '] ++ (edge.lower.toList ++ [' '] ++ ("<:".toList ++ [' '] ++
        (edge.upper.toList ++ ";".toList))) := by
  simp [statementOf]

theorem statementOf_baseline (name : String) : statementOf ("baseline: " ++ name) =
    "baseline".toList ++ [' '] ++ (name.toList ++ ";".toList) := by
  simp [statementOf]

/-- Names are written as a list of qualifiers. -/
theorem exists_writes_listed (start : Nat) (gapped : Layout False gap)
    (valid : ∀ name ∈ first :: others, (Token.qualifier name).Valid) :
    ∃ mention mentions, mention.name = first ∧ mentions.map Mention.name = others ∧
      Writes start (listLexemes mention mentions ++ [⟨.mark ";", none⟩])
        ((", ".intercalate (first :: others)).toList ++ (";".toList ++ gap)) := by
  induction others generalizing start first with
  | nil =>
    refine ⟨⟨first, start⟩, [], rfl, rfl, ?_⟩
    rw [String.intercalate_singleton]
    exact .ended (valid first List.mem_cons_self) (fun _ own => (Option.mem_some_iff.mp own).symm) gapped
  | cons second others ih =>
    have front := Writes.continued start (valid first List.mem_cons_self)
    obtain ⟨mention, mentions, rfl, rfl, behind⟩ :=
      ih (start + (first.toList ++ (",".toList ++ [' '])).length)
        fun name member => valid name (List.mem_cons_of_mem _ member)
    refine ⟨⟨first, start⟩, mention :: mentions, rfl, rfl, ?_⟩
    rw [String.intercalate_cons_cons, String.toList_append, String.toList_append, List.append_assoc,
      List.append_assoc]
    simpa [listLexemes] using front.append behind

theorem exists_writes_order (start : Nat) (gapped : Layout False gap)
    (valid : ∀ name ∈ first :: others, (Token.qualifier name).Valid) :
    ∃ mention mentions, mention.name = first ∧ mentions.map Mention.name = others ∧
      Writes start (Statement.order mention mentions).lexemes
        (statementOf ("order: " ++ ", ".intercalate (first :: others)) ++ gap) := by
  obtain ⟨mention, mentions, named, names, list⟩ :=
    exists_writes_listed (start + ("order".toList ++ [' ']).length) gapped valid
  refine ⟨mention, mentions, named, names, ?_⟩
  have whole := (Writes.word start "order" (by decide)).append list
  rw [statementOf_order]
  simp only [List.append_assoc] at whole ⊢
  exact whole

theorem exists_writes_subtype (start : Nat) (gapped : Layout False gap)
    (lower : (Token.qualifier edge.lower).Valid) (upper : (Token.qualifier edge.upper).Valid) :
    ∃ offset, Writes start (Statement.subtype ⟨edge.lower, edge.upper, offset⟩).lexemes
      (statementOf ("subtype: " ++ edge.lower ++ " <: " ++ edge.upper) ++ gap) := by
  have word := Writes.word start "subtype" (by decide)
  have below : Writes (start + 8) [⟨.qualifier edge.lower, some (start + 8)⟩]
      (edge.lower.toList ++ [' ']) := .spaced lower (by simp)
  have sign (start : Nat) : Writes start [⟨.mark "<:", none⟩] ("<:".toList ++ [' ']) :=
    .mark (by decide) (.blank (by decide) .nothing)
  have above (start : Nat) : Writes start [⟨.qualifier edge.upper, none⟩, ⟨.mark ";", none⟩]
      (edge.upper.toList ++ (";".toList ++ gap)) := .ended upper (by simp) gapped
  refine ⟨start + 8, ?_⟩
  have whole := word.append (below.append ((sign _).append (above _)))
  rw [statementOf_subtype]
  simp only [List.append_assoc] at whole ⊢
  exact whole

theorem exists_writes_baseline (start : Nat) {name : String} (gapped : Layout False gap)
    (valid : (Token.qualifier name).Valid) :
    ∃ mention, mention.name = name ∧ Writes start (Statement.baseline mention).lexemes
      (statementOf ("baseline: " ++ name) ++ gap) := by
  have last : Writes (start + 9) [⟨.qualifier name, some (start + 9)⟩, ⟨.mark ";", none⟩]
      (name.toList ++ (";".toList ++ gap)) := .ended valid (by simp) gapped
  refine ⟨⟨name, start + 9⟩, rfl, ?_⟩
  have whole := (Writes.word start "baseline" (by decide)).append last
  rw [statementOf_baseline]
  simp only [List.append_assoc] at whole ⊢
  exact whole

/-- The edges are written one statement after the other. -/
theorem exists_writes_edges (start : Nat) (gapped : Layout False gap)
    (valid : ∀ edge ∈ edges, (Token.qualifier edge.lower).Valid ∧ (Token.qualifier edge.upper).Valid) :
    ∃ declared : List EdgeDeclaration, (declared.map fun edge => ⟨edge.lower, edge.upper⟩) = edges ∧
      Writes start ((declared.map Statement.subtype).flatMap Statement.lexemes)
        (edges.flatMap fun edge =>
          statementOf ("subtype: " ++ edge.lower ++ " <: " ++ edge.upper) ++ gap) := by
  induction edges generalizing start with
  | nil => exact ⟨[], rfl, .nil start⟩
  | cons edge edges ih =>
    obtain ⟨lower, upper⟩ := valid edge List.mem_cons_self
    obtain ⟨offset, front⟩ := exists_writes_subtype start gapped lower upper
    obtain ⟨declared, rfl, behind⟩ :=
      ih _ fun other member => valid other (List.mem_cons_of_mem _ member)
    exact ⟨⟨edge.lower, edge.upper, offset⟩ :: declared, rfl, front.append behind⟩

end Statements

/-- A block states a hierarchy: with its order, its edges and its baseline, wherever they stand. -/
structure HierarchyDeclaration.States (block : HierarchyDeclaration) (hierarchy : Hierarchy) : Prop where
  ordered : block.ordered = true
  order : block.order.map Mention.name = hierarchy.names
  edges : block.edges.map (fun edge => ⟨edge.lower, edge.upper⟩) = hierarchy.edges
  baseline : block.baseline.map Mention.name = some hierarchy.baseline.name

namespace HierarchyDeclaration
variable {block other : HierarchyDeclaration} {hierarchy : Hierarchy}

theorem states_of_bind (bound : block.bind = .ok hierarchy) : block.States hierarchy where
  ordered := (bind_eq_ok_iff.mp bound).1
  order := (hierarchy_bind_eq_ok bound).1.symm
  edges := (hierarchy_bind_eq_ok bound).2.symm
  baseline := baseline_of_bind bound

theorem States.draft_eq {mention : Mention} (states : block.States hierarchy)
    (given : block.baseline = some mention) : block.draft mention =
      ⟨hierarchy.names.map fun name => (name, ""), hierarchy.edges, some hierarchy.baseline.name⟩ := by
  have named := states.baseline
  rw [given] at named
  rw [draft, states.order, states.edges, ← named]
  rfl

/-- Blocks that state one hierarchy are bound to the same. -/
theorem States.bind_eq (states : other.States hierarchy) (bound : block.bind = .ok hierarchy) :
    other.bind = .ok hierarchy := by
  obtain ⟨_, mention, given, built⟩ := bind_eq_ok_iff.mp bound
  obtain ⟨baseline, found, _⟩ := Option.map_eq_some_iff.mp states.baseline
  refine bind_eq_ok_iff.mpr ⟨states.ordered, baseline, found, ?_⟩
  rw [states.draft_eq found, ← (states_of_bind bound).draft_eq given]
  exact built

end HierarchyDeclaration

section Restated
variable {hierarchy : Hierarchy}

/-- The lines of a description are written as the statements of a block that states the hierarchy. -/
theorem exists_writes_describe (start : Nat) (gapped : Layout False gap)
    (valid : ∀ name ∈ hierarchy.names, (Token.qualifier name).Valid) :
    ∃ statements block, (Item.hierarchy 0 statements).declaration = .hierarchy block ∧
      block.States hierarchy ∧ Writes start (statements.flatMap Statement.lexemes)
        ((hierarchy.describe.map statementOf).flatMap (· ++ gap)) := by
  have based : hierarchy.baseline.name ∈ hierarchy.names := List.mem_map_of_mem hierarchy.based
  obtain ⟨first, others, names⟩ := List.exists_cons_of_ne_nil (List.ne_nil_of_mem based)
  have ranked : ∀ name ∈ first :: others, (Token.qualifier name).Valid := by
    rwa [← names]
  obtain ⟨mention, mentions, named, more, order⟩ := exists_writes_order start gapped ranked
  have ends : ∀ edge ∈ hierarchy.edges,
      (Token.qualifier edge.lower).Valid ∧ (Token.qualifier edge.upper).Valid :=
    fun edge stated => (hierarchy.ranked edge stated).imp (valid _) (valid _)
  obtain ⟨declared, same, edges⟩ := exists_writes_edges _ gapped ends
  obtain ⟨baseline, own, last⟩ := exists_writes_baseline _ gapped (valid _ based)
  refine ⟨.order mention mentions :: declared.map .subtype ++ [.baseline baseline], _, rfl, ?_, ?_⟩
  · constructor
    · rfl
    · simp [Statement.ranked, List.flatMap_map, named, more, names]
    · simp [List.filterMap_cons, Statement.edge?, List.filterMap_map, Function.comp_def, same]
    · simp [List.filterMap_cons, Statement.baseline?, List.filterMap_map, Function.comp_def, own]
  · have whole := order.append (edges.append last)
    rw [Hierarchy.describe, names]
    simpa [List.flatMap_map] using whole

/-- The description of a hierarchy is laid out as a block that states it. -/
theorem exists_laidOut_restate (gapped : Layout False gap)
    (valid : ∀ name ∈ hierarchy.names, (Token.qualifier name).Valid) :
    ∃ statements block, LaidOut [.hierarchy 0 statements] (restate gap hierarchy) ∧
      (Item.hierarchy 0 statements).declaration = .hierarchy block ∧ block.States hierarchy := by
  have keyword : "hierarchy" ∈ Token.keywords := by decide
  have front : Writes 0 [⟨.keyword "hierarchy", some 0⟩] ("hierarchy".toList ++ [' ']) :=
    .spaced keyword (by simp)
  have opening (start : Nat) : Writes start [⟨.mark "\x7b", none⟩] (['\x7b'] ++ gap) :=
    .mark (by decide) gapped
  have closing (start : Nat) : Writes start [⟨.mark "\x7d", none⟩] (['\x7d'] ++ []) :=
    .mark (by decide) .nothing
  obtain ⟨statements, block, declared, states, lines⟩ := exists_writes_describe _ gapped valid
  refine ⟨statements, block, ⟨[], restate gap hierarchy, rfl, .nothing, ?_⟩, declared, states⟩
  have whole := (front.append ((opening _).append (lines.append (closing _)))) [] [] [] .done
  -- a rewrite would go on to compare the two ends of the goal by evaluation
  unfold restate blockOf
  simp only [List.flatMap_singleton, Item.lexemes, List.append_assoc, List.append_nil] at whole ⊢
  exact whole

/-- A text with a single block that can be bound loads with what the block is bound to. -/
theorem exists_load_of_bind {text : List Char} {offset : Nat} {statements : List Statement}
    {block : HierarchyDeclaration} (laid : LaidOut [.hierarchy offset statements] text)
    (declared : (Item.hierarchy offset statements).declaration = .hierarchy block)
    (bound : block.bind = .ok hierarchy) (source : String) :
    ∃ unit, (load text source).result = .ok unit ∧ unit.hierarchy = hierarchy := by
  have short : ¬ Overlong [.hierarchy offset statements] := by simp [Overlong]
  have parsed := parse_of_laidOut laid short
  rw [List.map_singleton, declared] at parsed
  have read : AnalysisUnit.declarations text source = .ok [.hierarchy block] :=
    Outcome.mapError_eq_ok.mpr parsed
  have single : bindHierarchy [.hierarchy block] = .ok hierarchy := bound
  simp only [load, read, assemble, single]
  exact ⟨_, rfl, rfl⟩

/-- A loaded text with a block has the hierarchy that the block states. -/
theorem exists_block_of_load {text : List Char} {source : String} {unit : AnalysisUnit}
    {declarations : List Declaration} (loaded : (load text source).result = .ok unit)
    (parsed : parse text = .ok declarations) (stated : hierarchyBlocks declarations ≠ []) :
    ∃ block ∈ hierarchyBlocks declarations, block.bind = .ok unit.hierarchy := by
  obtain ⟨read, _, _, readParsed, bound, _, rfl⟩ := load_eq_ok loaded
  obtain rfl : declarations = read := Except.ok.inj (parsed.symm.trans readParsed)
  unfold bindHierarchy at bound
  split at bound
  · next none => exact absurd none stated
  · next block single => exact ⟨block, by simp [single], bound⟩
  · cases bound

/-- What is described of the hierarchy that a text states, restated, gives the hierarchy back. -/
theorem exists_load_restate {text : List Char} {source : String} {unit : AnalysisUnit}
    {declarations : List Declaration} (loaded : (load text source).result = .ok unit)
    (parsed : parse text = .ok declarations) (stated : hierarchyBlocks declarations ≠ [])
    (gapped : Layout False gap) (place : String) :
    ∃ again, (load (restate gap unit.hierarchy) place).result = .ok again ∧
      again.hierarchy = unit.hierarchy := by
  obtain ⟨block, member, bound⟩ := exists_block_of_load loaded parsed stated
  obtain ⟨_, _, valid, declared⟩ := exists_statements_of_parse parsed member
  have named : ∀ name ∈ unit.hierarchy.names, (Token.qualifier name).Valid := by
    rw [← (HierarchyDeclaration.states_of_bind bound).order]
    exact List.forall_mem_map.mpr (valid_of_statements valid declared)
  obtain ⟨statements, again, laid, restated, states⟩ := exists_laidOut_restate gapped named
  exact exists_load_of_bind laid restated (states.bind_eq bound) place

end Restated

/-- The description of a hierarchy that a text states determines the hierarchy: as a block, with any layout
between its statements, it loads again and has the same hierarchy, order, edges, baseline and all; so no two
such hierarchies are described alike. -/
theorem describe_determines {text : List Char} {source : String} {unit : AnalysisUnit}
    {declarations : List Declaration} (loaded : (load text source).result = .ok unit)
    (parsed : parse text = .ok declarations) (stated : hierarchyBlocks declarations ≠ []) :
    (∀ gap place, Layout False gap → ∃ again,
      (load (restate gap unit.hierarchy) place).result = .ok again ∧
        again.hierarchy = unit.hierarchy) ∧
    ∀ otherText otherSource other others, (load otherText otherSource).result = .ok other →
      parse otherText = .ok others → hierarchyBlocks others ≠ [] →
      other.hierarchy.describe = unit.hierarchy.describe → other.hierarchy = unit.hierarchy := by
  refine ⟨fun gap place gapped => exists_load_restate loaded parsed stated gapped place, ?_⟩
  intro otherText otherSource other others otherLoaded otherParsed otherStated alike
  obtain ⟨again, first, same⟩ := exists_load_restate loaded parsed stated .nothing source
  obtain ⟨once, second, otherSame⟩ :=
    exists_load_restate otherLoaded otherParsed otherStated .nothing source
  have text : restate [] other.hierarchy = restate [] unit.hierarchy := by
    unfold restate
    rw [alike]
  rw [text, first] at second
  obtain rfl := Except.ok.inj second
  exact otherSame.symm.trans same

/-- A block whose qualifiers are called like keywords, with two orders and two baselines. -/
def homonyms : List Char :=
  ("hierarchy \x7b baseline order; order hierarchy, subtype; subtype subtype <: hierarchy;" ++
    " order order; baseline subtype; \x7d").toList

/-- A gap with a comment in it. -/
def remarkGap : List Char := '\n' :: ('#' :: "restated".toList ++ '\n' :: [])

theorem describe_determines_homonyms : ∃ unit again, (load homonyms "homonyms").result = .ok unit ∧
    unit.hierarchy.describe =
      ["order: hierarchy, subtype, order", "subtype: subtype <: hierarchy", "baseline: subtype"] ∧
    (load (restate remarkGap unit.hierarchy) "again").result = .ok again ∧
    again.hierarchy = unit.hierarchy := by
  have accepted : (load homonyms "homonyms").result.toOption.map (fun unit => unit.hierarchy.describe) =
      some ["order: hierarchy, subtype, order", "subtype: subtype <: hierarchy", "baseline: subtype"] := by
    decide +kernel
  have single : (parse homonyms).toOption.map (fun declarations => (hierarchyBlocks declarations).length) =
      some 1 := by
    decide +kernel
  obtain ⟨unit, loaded, described⟩ := Outcome.exists_of_toOption_map accepted
  obtain ⟨declarations, parsed, blocks⟩ := Outcome.exists_of_toOption_map single
  have stated : hierarchyBlocks declarations ≠ [] := by
    rintro none
    simp [none] at blocks
  have gapped : Layout False remarkGap := .blank (by decide) (.comment (by decide) .nothing)
  obtain ⟨again, restated, same⟩ := (describe_determines loaded parsed stated).1 remarkGap "again" gapped
  exact ⟨unit, again, loaded, described, restated, same⟩

end SchemeTyping.AnalysisUnit
