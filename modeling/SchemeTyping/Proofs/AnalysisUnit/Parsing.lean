import SchemeTyping.Proofs.AnalysisUnit.Items
import SchemeTyping.Proofs.Outcome

/-! Parsing and rendering: a text parses if it renders items, which no other items do, and its
declarations are then those of the items. -/
namespace SchemeTyping.AnalysisUnit
open Peg Grammar

/-- A rule matches a whole text if its expression takes the text and reads one tree. -/
theorem matchAll_eq_ok {rule : Rule} {text : List Char} {tree : Tree} :
    rule.matchAll text 0 = .ok tree ↔ Takes rule.expr 0 text [] [tree] := by
  have input : text ++ [] = text.drop 0 := List.append_nil text
  unfold Takes
  rw [input]
  unfold Peg.Expr.read Rule.matchAll Rule.matchFrom
  cases rule.expr.run 0 (text.drop 0) with
  | none => simp
  | some found =>
    obtain ⟨trees, stop, rest, taken⟩ := found
    have whole : ¬ stop < text.length ↔ stop = text.length ∧ rest = [] := by
      rw [List.drop_zero] at taken
      rw [← List.length_eq_zero_iff]
      omega
    match trees with
    | [] => simp [Match.reading]
    | [found] =>
      by_cases further : stop < text.length
      · have short : ¬ (stop = text.length ∧ rest = []) := fun all => whole.mpr all further
        simpa [Match.reading, further] using fun _ => not_and.mp short
      · obtain ⟨rfl, rfl⟩ := whole.mp further
        simp [Match.reading]
    | first :: second :: more => simp [Match.reading]

/-- The items of a match tree. -/
def Item.ofUnit : Tree → List Item
  | .node .unit _ _ items => items.filterMap Item.ofTree?
  | _ => []

/-- A tree shows items if it reads as the items and as their declarations, and holds their digits. -/
structure ShowsUnit (items : List Item) (tree : Tree) : Prop where
  read : Item.ofUnit tree = items
  declared : Declaration.ofTree tree = items.map Item.declaration
  numerals : tree.wordsOf .integer = items.flatMap Item.numerals

theorem showsUnit_of_forall₂ {items : List Item} {trees : List Tree}
    (all : List.Forall₂ Item.Shows items trees) (start stop : Nat) : ShowsUnit items (.node .unit start stop trees) := by
  have parts : trees.filterMap Item.ofTree? = items ∧
      trees.filterMap Read.item? = items.map Item.declaration ∧
      wordsOfAll .integer trees = items.flatMap Item.numerals := by
    induction all with
    | nil => exact ⟨rfl, rfl, rfl⟩
    | cons seen _ ih =>
      obtain ⟨read, declared, numerals⟩ := ih
      refine ⟨?_, ?_, ?_⟩
      · rw [List.filterMap_cons_some seen.read, read]
      · rw [List.filterMap_cons_some seen.declared, declared, List.map_cons]
      · rw [wordsOfAll, seen.numerals, numerals, List.flatMap_cons]
  exact ⟨parts.1, parts.2.1, by simp [Tree.wordsOf, parts.2.2]⟩

theorem spells_items :
    Spells (.star item) (List.Forall₂ Item.Shows) (fun items => items.flatMap Item.lexemes)
      (fun next => Free next ∧ item.begins next = false) :=
  spells_item.star Item.lexemes_ne_nil fun _ => trivial

/-- What is read from a whole text shows items that are laid out in it. -/
theorem laidOut_of_takes {text : List Char} {tree : Tree}
    (takes : Takes Grammar.unit 0 text [] [tree]) :
    ∃ items, LaidOut items text ∧ ShowsUnit items tree := by
  obtain ⟨trees, same, inner⟩ := takes_named.mp takes
  obtain ⟨lead, body, _, items, rfl, rfl, first, second⟩ := takes_both.mp inner
  obtain ⟨rfl, gapped, _⟩ := takes_layout.mp first
  obtain ⟨items, seen, laid⟩ := spells_items.read second
  rw [List.append_nil] at gapped
  rw [Nat.zero_add] at laid
  refine ⟨items, ⟨lead, body, rfl, gapped, laid⟩, ?_⟩
  rw [List.singleton_inj.mp same]
  exact showsUnit_of_forall₂ seen _ _

/-- A text in which items are laid out is read, and shows the items. -/
theorem takes_of_laidOut {items : List Item} {text : List Char} (laid : LaidOut items text) :
    ∃ tree, Takes Grammar.unit 0 text [] [tree] ∧ ShowsUnit items tree := by
  obtain ⟨lead, body, rfl, gapped, laid⟩ := laid
  have opens : Opens (body ++ []).head? := laid.opens opens_none
  rw [← Nat.zero_add lead.length] at laid
  obtain ⟨trees, takes, seen⟩ := spells_items.write laid opens_none ⟨trivial, by decide⟩
  have first : Takes layout 0 lead (body ++ []) [] :=
    takes_layout.mpr ⟨rfl, by rwa [List.append_nil], opens.clear⟩
  refine ⟨_, takes_named.mpr ⟨trees, rfl, ?_⟩, showsUnit_of_forall₂ seen _ _⟩
  exact takes_both.mpr ⟨lead, body, [], trees, rfl, rfl, first, takes⟩

/-- The positions of constraints keep to the limit of numerals if all digits that are read do. -/
theorem numerals_le_iff {items : List Item} :
    (∀ digits ∈ items.flatMap Item.numerals, digits.length ≤ Text.digitLimit) ↔
      ∀ written, .constraint written ∈ items → written.digits.length ≤ Text.digitLimit := by
  constructor
  · intro bounded written member
    exact bounded written.digits (List.mem_flatMap.mpr ⟨_, member, List.mem_singleton_self _⟩)
  · intro bounded digits member
    obtain ⟨item, present, inside⟩ := List.mem_flatMap.mp member
    cases item with
    | hierarchy offset statements => cases inside
    | reference declaration => cases inside
    | constraint written =>
      rw [List.mem_singleton.mp inside]
      exact bounded written present

theorem parse_eq_ok {text : List Char} {declarations : List Declaration} :
    parse text = .ok declarations ↔ ∃ tree, Takes Grammar.unit 0 text [] [tree] ∧
      (∀ digits ∈ tree.wordsOf .integer, digits.length ≤ Text.digitLimit) ∧
      Declaration.ofTree tree = declarations := by
  unfold parse
  constructor
  · intro parsed
    split at parsed
    · cases parsed
    · cases parsed
    · next tree found =>
      split at parsed
      · cases parsed
      · next bounded =>
        cases parsed
        exact ⟨tree, matchAll_eq_ok.mp found, by simpa using bounded, rfl⟩
  · rintro ⟨tree, takes, bounded, rfl⟩
    have found : Rule.unit.matchAll text 0 = .ok tree := matchAll_eq_ok.mpr takes
    rw [found]
    exact if_neg (by simpa using bounded)

/-- A text parses exactly if it renders items, and to the declarations of those items. The text alone
settles which items they are, although merged statements no longer tell. -/
theorem parse_renders (text : List Char) :
    (∀ declarations, parse text = .ok declarations ↔
      ∃ items, Renders items text ∧ items.map Item.declaration = declarations) ∧
    ∀ items others, Renders items text → Renders others text → items = others := by
  refine ⟨fun declarations => ?_, ?_⟩
  · rw [parse_eq_ok]
    constructor
    · rintro ⟨tree, takes, bounded, rfl⟩
      obtain ⟨items, laid, seen⟩ := laidOut_of_takes takes
      rw [seen.numerals, numerals_le_iff] at bounded
      exact ⟨items, ⟨laid, bounded⟩, seen.declared.symm⟩
    · rintro ⟨items, ⟨laid, bounded⟩, rfl⟩
      obtain ⟨tree, takes, seen⟩ := takes_of_laidOut laid
      refine ⟨tree, takes, ?_, seen.declared⟩
      rw [seen.numerals]
      exact numerals_le_iff.mpr bounded
  · rintro items others ⟨laid, _⟩ ⟨otherLaid, _⟩
    obtain ⟨tree, takes, seen⟩ := takes_of_laidOut laid
    obtain ⟨other, otherTakes, otherSeen⟩ := takes_of_laidOut otherLaid
    have same : tree = other := List.singleton_inj.mp (takes.unique otherTakes rfl).1
    rw [← seen.read, ← otherSeen.read, same]

/-- A unit with as little layout as can be, and with comments right after tokens. -/
def glued : List Char :=
  "ref a#one\n:other\x7b\x7d;constraint a<:$b.c@007error\"\";#end".toList

theorem parse_renders_glued : ∃ items, Renders items glued ∧ items.map Item.declaration =
    [.reference ⟨0, "a", .other, [], []⟩, .constraint ⟨19, "a", "$b.c", 7, some .error, ""⟩] := by
  apply ((parse_renders glued).1 _).mp
  have read : (parse glued).toOption.map id = some
      [.reference ⟨0, "a", .other, [], []⟩, .constraint ⟨19, "a", "$b.c", 7, some .error, ""⟩] := by
    decide +kernel
  obtain ⟨declarations, parsed, rfl⟩ := Outcome.exists_of_toOption_map read
  exact parsed

end SchemeTyping.AnalysisUnit
