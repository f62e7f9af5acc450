import SchemeTyping.Proofs.AnalysisUnit.Parsing
import SchemeTyping.Proofs.Peg.Locality

/-! Locality of the grammar. Tokens look one character ahead, a first character chooses between
alternatives, and every item ends with a mark, so that no later character can undo it. -/
namespace SchemeTyping.AnalysisUnit
open Peg Grammar

theorem apart_blankRun : ∀ next, comment.begins next = true → blankRun.begins next = false := by
  intro next begins
  have sharp : (next == some '#') = true := begins
  rw [eq_of_beq sharp]
  decide

theorem local_blankRun : Local blankRun fun _ => True := (Local.one _).andThen (.many _)

theorem local_comment : Local comment fun _ => True := (Local.text _).andThen (.many _)

/-- Layout goes on up to a character with which no layout begins. -/
theorem local_layout : Local layout fun _ => True := by
  have runs := (local_blankRun.either local_comment apart_blankRun).star rfl fun _ _ => trivial
  refine runs.hidden.widen fun takes => ⟨trivial, ?_⟩
  obtain ⟨_, _, clear⟩ := takes_layout.mp takes
  exact begins_layoutRun_of_clear clear

theorem lasting_layout : Lasting layout := by
  have lasts : Lasting (.either blankRun comment) :=
    (Lasting.behind (firm_one _) (.many _)).either (.behind (firm_text _) (.many _)) apart_blankRun
  exact (Lasting.star (local_blankRun.either local_comment apart_blankRun) lasts).hidden

/-- A mark seals what stands before it. -/
theorem sealed_mark (chars : String) (some : chars.toList ≠ []) : Sealed (mark chars) where
  toLocal := (Local.text _).andThen local_layout
  some takes := by
    obtain ⟨front, back, _, _, rfl, _, first, _⟩ := takes_both.mp takes
    obtain ⟨rfl, _⟩ := takes_text.mp first
    simp [some]
  lasts := Lasting.behind (firm_text _) lasting_layout

theorem local_keyword (rule : Rule) (word : String) : Local (keyword rule word) fun _ => True :=
  ((Local.text _).andThen .wordEnd).named

end SchemeTyping.AnalysisUnit

namespace SchemeTyping.Peg
open AnalysisUnit Grammar
variable {expr : Expr Rule}

/-- A mark seals what is local before its first character. -/
theorem Local.marked {fits : Option Char → Prop} (first : Local expr fits) (chars : String)
    {char : Char} {more : List Char} (begins : chars.toList = char :: more) (follows : fits (some char)) :
    Sealed (.both expr (mark chars)) := by
  refine (sealed_mark chars (by simp [begins])).after first fun takes => ?_
  obtain ⟨front, back, _, _, rfl, _, head, _⟩ := takes_both.mp takes
  obtain ⟨rfl, _⟩ := takes_text.mp head
  rw [begins]
  exact follows

/-- A keyword and the layout after it. -/
theorem Sealed.keyed (later : Sealed expr) (rule : Rule) (word : String) :
    Sealed (.both (keyword rule word) (.both layout expr)) :=
  (later.behind local_layout).behind (local_keyword rule word)

/-- A mark before what is sealed. -/
theorem Sealed.opened (later : Sealed expr) (chars : String) (some : chars.toList ≠ []) :
    Sealed (.both (mark chars) expr) :=
  later.behind (sealed_mark chars some).toLocal

end SchemeTyping.Peg

namespace SchemeTyping.AnalysisUnit
open Peg Grammar

theorem local_qualifier : Local qualifier fun _ => True :=
  (((Local.one _).andThen (.many _)).word.andThen local_layout).named

theorem local_identifier : Local identifier fun _ => True :=
  (((Local.one _).andThen (.many _)).word.andThen local_layout).named

theorem local_integer : Local integer fun _ => True :=
  (((Local.one _).andThen (.many _)).word.andThen local_layout).named

theorem local_string : Local string fun _ => True :=
  ((Local.text _).andThen ((Local.many _).word.andThen
    ((Local.text _).andThen local_layout))).named

/-- An expression with a single first character is told apart by it. -/
theorem apart_of_first {expr otherExpr : Expr} (first : Char)
    (single : ∀ next, expr.begins next = (next == some first))
    (other : otherExpr.begins (some first) = false) :
    ∀ next, otherExpr.begins next = true → expr.begins next = false := by
  intro next begins
  rw [single]
  refine beq_false_of_ne fun same => ?_
  rw [same, other] at begins
  cases begins

theorem local_wholeWord (word : String) : Local (wholeWord word) fun _ => True :=
  (Local.text _).word.andThen .wordEnd

/-- A qualifier behind a comma. -/
theorem local_listed : Local (.both (mark ",") qualifier) fun _ => True :=
  (sealed_mark "," (by decide)).toLocal.andThen local_qualifier

theorem local_qualList : Local qualList fun next => True ∧ (mark ",").begins next = false :=
  (local_qualifier.andThen (local_listed.star rfl fun _ _ => trivial)).named

theorem sealed_orderStmt : Sealed orderStmt :=
  ((local_qualList.marked ";" rfl ⟨trivial, by decide⟩).keyed .kwOrder "order").named

theorem sealed_subtypeStmt : Sealed subtypeStmt := by
  have upper := (local_qualifier.marked ";" rfl trivial).opened "<:" (by decide)
  exact ((upper.behind local_qualifier).keyed .kwSubtype "subtype").named

theorem sealed_baselineStmt : Sealed baselineStmt :=
  ((local_qualifier.marked ";" rfl trivial).keyed .kwBaseline "baseline").named

theorem sealed_hierarchyStmt : Sealed hierarchyStmt := by
  have others := sealed_subtypeStmt.either sealed_baselineStmt
    (apart_of_first 's' (fun _ => rfl) (by decide))
  exact (sealed_orderStmt.either others (apart_of_first 'o' (fun _ => rfl) (by decide))).named

theorem sealed_hierarchyBlock : Sealed hierarchyBlock := by
  have statements := sealed_hierarchyStmt.toLocal.star rfl fun _ _ => trivial
  have braces := (statements.marked "\x7d" rfl ⟨trivial, by decide⟩).opened "\x7b" (by decide)
  exact (braces.keyed .kwHierarchy "hierarchy").named

theorem local_adaptWord : Local adaptWord fun _ => True :=
  ((local_wholeWord "method_adapt").either (local_wholeWord "adapt")
    (apart_of_first 'm' (fun _ => rfl) (by decide))).named

theorem sealed_adaptKind : Sealed adaptKind := by
  have target := (local_identifier.marked ")" rfl trivial).opened "(" (by decide)
  exact ((target.behind local_layout).behind local_adaptWord).named

theorem local_simpleKind : Local simpleKind fun _ => True := by
  have last := (local_wholeWord "equal_null").either (local_wholeWord "other")
    (apart_of_first 'e' (fun _ => rfl) (by decide))
  have others := (local_wholeWord "parameter").either last (apart_of_first 'p' (fun _ => rfl) (by decide))
  have words := (local_wholeWord "variable").either others (apart_of_first 'v' (fun _ => rfl) (by decide))
  exact (words.andThen local_layout).named

theorem local_refKind : Local refKind fun _ => True := by
  refine (sealed_adaptKind.toLocal.either local_simpleKind fun next begins => ?_).named
  refine Bool.eq_false_iff.mpr fun other => ?_
  have adapted : (next == some 'm' || next == some 'a') = true := other
  rcases (Bool.or_eq_true _ _).mp adapted with same | same
  · rw [eq_of_beq same] at begins
    exact absurd begins (by decide)
  · rw [eq_of_beq same] at begins
    exact absurd begins (by decide)

theorem sealed_qualSet : Sealed qualSet := by
  have list := local_qualList.optional rfl
  exact ((list.marked "\x7d" rfl ⟨⟨trivial, by decide⟩, by decide⟩).opened "\x7b" (by decide)).named

theorem local_cryptOption : Local cryptOption fun _ => True :=
  ((local_keyword _ _).andThen (local_layout.andThen local_qualifier)).named

theorem local_nameOption : Local nameOption fun _ => True :=
  ((local_keyword _ _).andThen (local_layout.andThen local_string)).named

theorem local_elementOption : Local elementOption fun _ => True :=
  ((local_keyword _ _).andThen (local_layout.andThen local_identifier)).named

theorem local_refOption : Local refOption fun _ => True := by
  have others := local_nameOption.either local_elementOption
    (apart_of_first 'n' (fun _ => rfl) (by decide))
  exact (local_cryptOption.either others (apart_of_first 'c' (fun _ => rfl) (by decide))).named

theorem sealed_refDecl : Sealed refDecl := by
  have options := local_refOption.star rfl fun _ _ => trivial
  have sets := (options.marked ";" rfl ⟨trivial, by decide⟩).behind sealed_qualSet.toLocal
  have kinds := (sets.behind local_refKind).opened ":" (by decide)
  exact ((kinds.behind local_identifier).keyed .kwRef "ref").named

theorem local_severity : Local severity fun _ => True := by
  have words := (local_wholeWord "error").either (local_wholeWord "warning")
    (apart_of_first 'e' (fun _ => rfl) (by decide))
  exact (words.andThen local_layout).named

/-- A severity and a label may be missing; their first characters tell them from what follows. -/
theorem sealed_remarks : Sealed remarksExpr := by
  have label := (local_string.optional rfl).marked ";" rfl ⟨trivial, by decide⟩
  refine label.after (local_severity.optional rfl) fun takes => ⟨trivial, ?_⟩
  rcases begins_of_takes_optional takes with quoted | ended
  · have quote : (_ == some '"') = true := quoted
    rw [eq_of_beq quote]
    decide
  · have mark : (_ == some ';') = true := ended
    rw [eq_of_beq mark]
    decide

theorem sealed_constraintDecl : Sealed constraintDecl := by
  have right := ((sealed_remarks.behind local_integer).opened "@" (by decide)).behind local_identifier
  have left := (right.opened "<:" (by decide)).behind local_identifier
  exact (left.keyed .kwConstraint "constraint").named

theorem sealed_item : Sealed item := by
  have others := sealed_refDecl.either sealed_constraintDecl
    (apart_of_first 'r' (fun _ => rfl) (by decide))
  exact (sealed_hierarchyBlock.either others (apart_of_first 'h' (fun _ => rfl) (by decide))).named

theorem local_unit : Local Grammar.unit fun next => True ∧ item.begins next = false :=
  (local_layout.andThen (sealed_item.toLocal.star rfl fun _ _ => trivial)).named

/-- Every rule of the grammar is local, before some characters at least. -/
theorem exists_local (rule : Rule) : ∃ allowed, Local rule.expr allowed := by
  cases rule with
  | unit => exact ⟨_, local_unit⟩
  | item => exact ⟨_, sealed_item.toLocal⟩
  | hierarchyBlock => exact ⟨_, sealed_hierarchyBlock.toLocal⟩
  | hierarchyStmt => exact ⟨_, sealed_hierarchyStmt.toLocal⟩
  | orderStmt => exact ⟨_, sealed_orderStmt.toLocal⟩
  | subtypeStmt => exact ⟨_, sealed_subtypeStmt.toLocal⟩
  | baselineStmt => exact ⟨_, sealed_baselineStmt.toLocal⟩
  | refDecl => exact ⟨_, sealed_refDecl.toLocal⟩
  | refKind => exact ⟨_, local_refKind⟩
  | adaptKind => exact ⟨_, sealed_adaptKind.toLocal⟩
  | adaptWord => exact ⟨_, local_adaptWord⟩
  | simpleKind => exact ⟨_, local_simpleKind⟩
  | qualSet => exact ⟨_, sealed_qualSet.toLocal⟩
  | qualList => exact ⟨_, local_qualList⟩
  | refOption => exact ⟨_, local_refOption⟩
  | cryptOption => exact ⟨_, local_cryptOption⟩
  | nameOption => exact ⟨_, local_nameOption⟩
  | elementOption => exact ⟨_, local_elementOption⟩
  | constraintDecl => exact ⟨_, sealed_constraintDecl.toLocal⟩
  | severity => exact ⟨_, local_severity⟩
  | kwHierarchy | kwOrder | kwSubtype | kwBaseline | kwRef | kwCrypt | kwName | kwElement
  | kwConstraint => exact ⟨_, local_keyword _ _⟩
  | qualifier => exact ⟨_, local_qualifier⟩
  | identifier => exact ⟨_, local_identifier⟩
  | integer => exact ⟨_, local_integer⟩
  | string => exact ⟨_, local_string⟩
  | layout => exact ⟨_, local_layout.named⟩
  | comment => exact ⟨_, local_comment.named⟩

end SchemeTyping.AnalysisUnit
