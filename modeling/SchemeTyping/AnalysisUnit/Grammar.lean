import SchemeTyping.Peg.Match
import SchemeTyping.Text.Blank

/-! The grammar of unit files: hierarchy blocks, reference declarations and constraint declarations.
Every token takes the layout after it. -/
namespace SchemeTyping.AnalysisUnit

/-- The rules of the grammar. -/
inductive Rule where
  | unit | item
  | hierarchyBlock | hierarchyStmt | orderStmt | subtypeStmt | baselineStmt
  | refDecl | refKind | adaptKind | adaptWord | simpleKind | qualSet | qualList
  | refOption | cryptOption | nameOption | elementOption
  | constraintDecl | severity
  | kwHierarchy | kwOrder | kwSubtype | kwBaseline | kwRef | kwCrypt | kwName | kwElement
  | kwConstraint
  | qualifier | identifier | integer | string | layout | comment
  deriving DecidableEq, Repr

namespace Rule

def all : List Rule := [
  .unit, .item, .hierarchyBlock, .hierarchyStmt, .orderStmt, .subtypeStmt, .baselineStmt,
  .refDecl, .refKind, .adaptKind, .adaptWord, .simpleKind, .qualSet, .qualList, .refOption,
  .cryptOption, .nameOption, .elementOption, .constraintDecl, .severity, .kwHierarchy, .kwOrder,
  .kwSubtype, .kwBaseline, .kwRef, .kwCrypt, .kwName, .kwElement, .kwConstraint, .qualifier,
  .identifier, .integer, .string, .layout, .comment]

/-- The name of a rule. -/
def name : Rule → String
  | .unit => "unit"
  | .item => "item"
  | .hierarchyBlock => "hierarchy_block"
  | .hierarchyStmt => "hierarchy_stmt"
  | .orderStmt => "order_stmt"
  | .subtypeStmt => "subtype_stmt"
  | .baselineStmt => "baseline_stmt"
  | .refDecl => "ref_decl"
  | .refKind => "ref_kind"
  | .adaptKind => "adapt_kind"
  | .adaptWord => "adapt_word"
  | .simpleKind => "simple_kind"
  | .qualSet => "qual_set"
  | .qualList => "qual_list"
  | .refOption => "ref_option"
  | .cryptOption => "crypt_option"
  | .nameOption => "name_option"
  | .elementOption => "element_option"
  | .constraintDecl => "constraint_decl"
  | .severity => "severity"
  | .kwHierarchy => "kw_hierarchy"
  | .kwOrder => "kw_order"
  | .kwSubtype => "kw_subtype"
  | .kwBaseline => "kw_baseline"
  | .kwRef => "kw_ref"
  | .kwCrypt => "kw_crypt"
  | .kwName => "kw_name"
  | .kwElement => "kw_element"
  | .kwConstraint => "kw_constraint"
  | .qualifier => "qualifier"
  | .identifier => "identifier"
  | .integer => "integer"
  | .string => "string"
  | .layout => "_"
  | .comment => "comment"

def ofName? (name : String) : Option Rule := all.find? (·.name == name)

end Rule

/-- Expressions over the rules of the grammar. -/
abbrev Expr := Peg.Expr Rule

/-- Trees over the rules of the grammar. -/
abbrev Tree := Peg.Tree Rule

namespace Grammar
open Peg.Expr

def isLetter (char : Char) : Bool :=
  ('a' ≤ char && char ≤ 'z') || ('A' ≤ char && char ≤ 'Z') || char == '_'

def isDigit (char : Char) : Bool := '0' ≤ char && char ≤ '9'

/-- Qualifiers are letters and digits and begin with a letter. -/
def continuesQualifier (char : Char) : Bool := isLetter char || isDigit char

/-- Identifiers may also hold a dollar sign, and a point after the first character. -/
def startsIdentifier (char : Char) : Bool := isLetter char || char == '$'

def continuesIdentifier (char : Char) : Bool := startsIdentifier char || isDigit char || char == '.'

/-- A string ends at a quotation mark and holds no line end. -/
def staysInString (char : Char) : Bool := char != '"' && char != '\n'

def staysInComment (char : Char) : Bool := char != '\n'

def comment : Expr := both (text ['#']) (many staysInComment)

/-- White space and comments between tokens. -/
def layout : Expr :=
  hidden (star (either (both (one Text.isBlank) (many Text.isBlank)) comment))

/-- A punctuation mark and the layout after it. -/
def mark (chars : String) : Expr := both (text chars.toList) layout

/-- A keyword; no word character may follow it. -/
def keyword (rule : Rule) (chars : String) : Expr :=
  named rule (both (text chars.toList) wordEnd)

def kwHierarchy : Expr := keyword .kwHierarchy "hierarchy"
def kwOrder : Expr := keyword .kwOrder "order"
def kwSubtype : Expr := keyword .kwSubtype "subtype"
def kwBaseline : Expr := keyword .kwBaseline "baseline"
def kwRef : Expr := keyword .kwRef "ref"
def kwCrypt : Expr := keyword .kwCrypt "crypt"
def kwName : Expr := keyword .kwName "name"
def kwElement : Expr := keyword .kwElement "element"
def kwConstraint : Expr := keyword .kwConstraint "constraint"

def qualifier : Expr :=
  named .qualifier (both (word (both (one isLetter) (many continuesQualifier))) layout)

def identifier : Expr :=
  named .identifier (both (word (both (one startsIdentifier) (many continuesIdentifier))) layout)

def integer : Expr := named .integer (both (word (both (one isDigit) (many isDigit))) layout)

def string : Expr :=
  named .string (all [text ['"'], word (many staysInString), text ['"'], layout])

def qualList : Expr := named .qualList (both qualifier (star (both (mark ",") qualifier)))

def orderStmt : Expr := named .orderStmt (all [kwOrder, layout, qualList, mark ";"])

def subtypeStmt : Expr :=
  named .subtypeStmt (all [kwSubtype, layout, qualifier, mark "<:", qualifier, mark ";"])

def baselineStmt : Expr := named .baselineStmt (all [kwBaseline, layout, qualifier, mark ";"])

def hierarchyStmt : Expr :=
  named .hierarchyStmt (any orderStmt [subtypeStmt, baselineStmt])

def hierarchyBlock : Expr :=
  named .hierarchyBlock
    (all [kwHierarchy, layout, mark "\x7b", star hierarchyStmt, mark "\x7d"])

/-- A word that ends there. -/
def wholeWord (chars : String) : Expr := both (word (text chars.toList)) wordEnd

def adaptWord : Expr := named .adaptWord (any (wholeWord "method_adapt") [wholeWord "adapt"])

def adaptKind : Expr :=
  named .adaptKind (all [adaptWord, layout, mark "(", identifier, mark ")"])

def simpleKind : Expr :=
  named .simpleKind (both
    (any (wholeWord "variable") [wholeWord "parameter", wholeWord "equal_null", wholeWord "other"])
    layout)

def refKind : Expr := named .refKind (any adaptKind [simpleKind])

def qualSet : Expr := named .qualSet (all [mark "\x7b", optional qualList, mark "\x7d"])

def cryptOption : Expr := named .cryptOption (all [kwCrypt, layout, qualifier])

def nameOption : Expr := named .nameOption (all [kwName, layout, string])

def elementOption : Expr := named .elementOption (all [kwElement, layout, identifier])

def refOption : Expr := named .refOption (any cryptOption [nameOption, elementOption])

def refDecl : Expr :=
  named .refDecl
    (all [kwRef, layout, identifier, mark ":", refKind, qualSet, star refOption, mark ";"])

def severity : Expr :=
  named .severity (both (any (wholeWord "error") [wholeWord "warning"]) layout)

def constraintDecl : Expr :=
  named .constraintDecl
    (all [kwConstraint, layout, identifier, mark "<:", identifier, mark "@", integer,
      optional severity, optional string, mark ";"])

def item : Expr := named .item (any hierarchyBlock [refDecl, constraintDecl])

def unit : Expr := named .unit (both layout (star item))

end Grammar

/-- The expression of a rule. -/
def Rule.expr : Rule → Expr
  | .unit => Grammar.unit
  | .item => Grammar.item
  | .hierarchyBlock => Grammar.hierarchyBlock
  | .hierarchyStmt => Grammar.hierarchyStmt
  | .orderStmt => Grammar.orderStmt
  | .subtypeStmt => Grammar.subtypeStmt
  | .baselineStmt => Grammar.baselineStmt
  | .refDecl => Grammar.refDecl
  | .refKind => Grammar.refKind
  | .adaptKind => Grammar.adaptKind
  | .adaptWord => Grammar.adaptWord
  | .simpleKind => Grammar.simpleKind
  | .qualSet => Grammar.qualSet
  | .qualList => Grammar.qualList
  | .refOption => Grammar.refOption
  | .cryptOption => Grammar.cryptOption
  | .nameOption => Grammar.nameOption
  | .elementOption => Grammar.elementOption
  | .constraintDecl => Grammar.constraintDecl
  | .severity => Grammar.severity
  | .kwHierarchy => Grammar.kwHierarchy
  | .kwOrder => Grammar.kwOrder
  | .kwSubtype => Grammar.kwSubtype
  | .kwBaseline => Grammar.kwBaseline
  | .kwRef => Grammar.kwRef
  | .kwCrypt => Grammar.kwCrypt
  | .kwName => Grammar.kwName
  | .kwElement => Grammar.kwElement
  | .kwConstraint => Grammar.kwConstraint
  | .qualifier => Grammar.qualifier
  | .identifier => Grammar.identifier
  | .integer => Grammar.integer
  | .string => Grammar.string
  | .layout => .named .layout Grammar.layout
  | .comment => .named .comment Grammar.comment

/-- What a match of a rule finds: the tree and where it stops. -/
structure Found where
  tree : Tree
  stop : Nat

/-- Why a rule does not match a whole text. -/
inductive Mismatch where
  | nothing
  | incomplete (stop : Nat)
  deriving DecidableEq, Repr

/-- Match a rule against a text from an offset on. -/
def Rule.matchFrom (rule : Rule) (text : List Char) (start : Nat) : Option Found :=
  match rule.expr.run start (text.drop start) with
  | some ⟨[tree], stop, _, _⟩ => some ⟨tree, stop⟩
  | _ => none

/-- Match a rule against all of a text from an offset on. -/
def Rule.matchAll (rule : Rule) (text : List Char) (start : Nat) : Except Mismatch Tree :=
  match rule.matchFrom text start with
  | none => .error .nothing
  | some found => if found.stop < text.length then .error (.incomplete found.stop) else .ok found.tree

end SchemeTyping.AnalysisUnit
