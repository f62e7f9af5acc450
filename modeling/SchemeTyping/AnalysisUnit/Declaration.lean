import SchemeTyping.AnalysisUnit.Grammar
import SchemeTyping.Constraint.Policy
import SchemeTyping.Reference.Basic
import SchemeTyping.Text.Numeral

/-! Declarations: what a unit file says, read off its match tree without being judged. Each keeps the
offset at which it stands. -/
namespace SchemeTyping.AnalysisUnit

/-- A qualifier named at an offset. -/
structure Mention where
  name : String
  offset : Nat
  deriving DecidableEq, Repr

/-- An edge between two qualifiers, at the offset of the lower one. -/
structure EdgeDeclaration where
  lower : String
  upper : String
  offset : Nat
  deriving DecidableEq, Repr

/-- The statements of a hierarchy block: the orders one after the other, the edges, and the last
baseline. -/
structure HierarchyDeclaration where
  offset : Nat
  order : List Mention := []
  edges : List EdgeDeclaration := []
  baseline : Option Mention := none
  ordered : Bool := false
  deriving DecidableEq, Repr

/-- What an option of a reference declaration sets. -/
inductive OptionKey where
  | crypt
  | name
  | element
  deriving DecidableEq, Repr

def OptionKey.label : OptionKey → String
  | .crypt => "crypt"
  | .name => "name"
  | .element => "element"

/-- An option, at the offset of its qualifier or else of its keyword. -/
structure OptionDeclaration where
  key : OptionKey
  value : String
  offset : Nat
  deriving DecidableEq, Repr

/-- A reference declaration; an adapted kind names its declaration by identifier. -/
structure ReferenceDeclaration where
  offset : Nat
  identifier : String
  kind : Kind String
  qualifiers : List Mention
  options : List OptionDeclaration
  deriving DecidableEq, Repr

structure ConstraintDeclaration where
  offset : Nat
  left : String
  right : String
  position : Nat
  severity : Option Severity
  label : String
  deriving DecidableEq, Repr

/-- One item of a unit file. -/
inductive Declaration where
  | hierarchy (declaration : HierarchyDeclaration)
  | reference (declaration : ReferenceDeclaration)
  | constraint (declaration : ConstraintDeclaration)
  deriving DecidableEq, Repr

/-- The number that decimal digits stand for. -/
def ofDigits (digits : List Char) : Nat :=
  digits.foldl (fun number digit => number * 10 + (digit.toNat - '0'.toNat)) 0

namespace Read

def mention? : Tree → Option Mention
  | .node .qualifier start _ [.word text] => some ⟨String.ofList text, start⟩
  | _ => none

def identifier? : Tree → Option String
  | .node .identifier _ _ [.word text] => some (String.ofList text)
  | _ => none

def string? : Tree → Option String
  | .node .string _ _ [.word text] => some (String.ofList text)
  | _ => none

def integer? : Tree → Option Nat
  | .node .integer _ _ [.word text] => some (ofDigits text)
  | _ => none

def severity? : Tree → Option Severity
  | .node .severity _ _ [.word text] => Severity.ofLabel? (String.ofList text)
  | _ => none

def mentions : Tree → List Mention
  | .node .qualList _ _ children => children.filterMap mention?
  | _ => []

/-- The qualifiers between braces. -/
def qualifierSet : Tree → List Mention
  | .node .qualSet _ _ children => children.flatMap mentions
  | _ => []

/-- Take up one statement of a hierarchy block. -/
def statement (block : HierarchyDeclaration) : Tree → HierarchyDeclaration
  | .node .hierarchyStmt _ _ [.node .orderStmt _ _ [_, list]] =>
    { block with order := block.order ++ mentions list, ordered := true }
  | .node .hierarchyStmt _ _ [.node .subtypeStmt _ _ [_, lower, upper]] =>
    match mention? lower, mention? upper with
    | some lower, some upper =>
      { block with edges := block.edges ++ [⟨lower.name, upper.name, lower.offset⟩] }
    | _, _ => block
  | .node .hierarchyStmt _ _ [.node .baselineStmt _ _ [_, baseline]] =>
    match mention? baseline with
    | some baseline => { block with baseline := some baseline }
    | none => block
  | _ => block

def kind? : Tree → Option (Kind String)
  | .node .refKind _ _ [.node .adaptKind _ _ [.node .adaptWord _ _ [.word text], target]] =>
    match Flavour.ofLabel? (String.ofList text), identifier? target with
    | some .adapt, some target => some (.adapt target)
    | some .methodAdapt, some target => some (.methodAdapt target)
    | _, _ => none
  | .node .refKind _ _ [.node .simpleKind _ _ [.word text]] =>
    match Flavour.ofLabel? (String.ofList text) with
    | some .variable => some .variable
    | some .parameter => some .parameter
    | some .equalNull => some .equalNull
    | some .other => some .other
    | _ => none
  | _ => none

def option? : Tree → Option OptionDeclaration
  | .node .refOption _ _ [.node .cryptOption _ _ [_, qualifier]] =>
    (mention? qualifier).map fun mention => ⟨.crypt, mention.name, mention.offset⟩
  | .node .refOption _ _ [.node .nameOption start _ [_, text]] =>
    (string? text).map fun text => ⟨.name, text, start⟩
  | .node .refOption _ _ [.node .elementOption start _ [_, element]] =>
    (identifier? element).map fun element => ⟨.element, element, start⟩
  | _ => none

/-- The severity and the label that may stand after a position. -/
def remarks (trees : List Tree) : Option Severity × String :=
  (trees.findSome? severity?, (trees.findSome? string?).getD "")

def item? : Tree → Option Declaration
  | .node .item _ _ [.node .hierarchyBlock start _ (_ :: statements)] =>
    some (.hierarchy (statements.foldl statement { offset := start }))
  | .node .item _ _ [.node .refDecl start _ (_ :: identifier :: kind :: set :: options)] =>
    match identifier? identifier, kind? kind with
    | some identifier, some kind =>
      some (.reference ⟨start, identifier, kind, qualifierSet set, options.filterMap option?⟩)
    | _, _ => none
  | .node .item _ _ [.node .constraintDecl start _ (_ :: left :: right :: position :: rest)] =>
    match identifier? left, identifier? right, integer? position with
    | some left, some right, some position =>
      let (severity, label) := remarks rest
      some (.constraint ⟨start, left, right, position, severity, label⟩)
    | _, _, _ => none
  | _ => none

end Read

/-- The declarations below the root of a match tree. -/
def Declaration.ofTree : Tree → List Declaration
  | .node .unit _ _ items => items.filterMap Read.item?
  | _ => []

/-- Why a text has no declarations: input that no item begins with, or a position with too many
digits. -/
inductive ParseFault where
  | unexpected (offset : Nat)
  | numeralTooLong
  deriving DecidableEq, Repr

/-- The declarations of a text. -/
def parse (text : List Char) : Except ParseFault (List Declaration) :=
  match Rule.unit.matchAll text 0 with
  | .error .nothing => .error (.unexpected 0)
  | .error (.incomplete stop) => .error (.unexpected stop)
  | .ok tree =>
    if (tree.wordsOf .integer).any fun digits => Text.digitLimit < digits.length then
      .error .numeralTooLong
    else .ok (Declaration.ofTree tree)

end SchemeTyping.AnalysisUnit
