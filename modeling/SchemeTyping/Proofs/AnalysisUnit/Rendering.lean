import SchemeTyping.AnalysisUnit.Declaration
import SchemeTyping.Proofs.AnalysisUnit.Layout

/-! Renderings: the ways of writing a sequence of items. Items are written as their tokens in grammar
order, with layout before, between and after them. -/
namespace SchemeTyping.AnalysisUnit

/-- The tokens of unit files. -/
inductive Token where
  | keyword (word : String)
  | mark (chars : String)
  | qualifier (name : String)
  | identifier (name : String)
  | digits (chars : List Char)
  | quoted (text : String)
  deriving DecidableEq, Repr

namespace Token

def keywords : List String := [
  "hierarchy", "order", "subtype", "baseline", "ref", "crypt", "name", "element", "constraint",
  "variable", "parameter", "equal_null", "other", "adapt", "method_adapt", "error", "warning"]

def marks : List String := ["\x7b", "\x7d", "(", ")", ";", ":", ",", "<:", "@"]

/-- The characters of a token. -/
def chars : Token → List Char
  | .keyword word => word.toList
  | .mark chars => chars.toList
  | .qualifier name => name.toList
  | .identifier name => name.toList
  | .digits chars => chars
  | .quoted text => '"' :: text.toList ++ ['"']

/-- Which tokens there are: qualifiers, identifiers, digits and strings of any length. -/
def Valid : Token → Prop
  | .keyword word => word ∈ keywords
  | .mark chars => chars ∈ marks
  | .qualifier name => ∃ first more, name.toList = first :: more ∧ Grammar.isLetter first = true ∧
    ∀ char ∈ more, Grammar.continuesQualifier char = true
  | .identifier name => ∃ first more, name.toList = first :: more ∧
    Grammar.startsIdentifier first = true ∧ ∀ char ∈ more, Grammar.continuesIdentifier char = true
  | .digits chars => chars ≠ [] ∧ ∀ char ∈ chars, Grammar.isDigit char = true
  | .quoted text => ∀ char ∈ text.toList, char ≠ '"' ∧ char ≠ '\n'

/-- Keywords, qualifiers and identifiers run on into a letter, a digit or an underscore. -/
def runsOn : Token → Bool
  | .keyword _ => true
  | .qualifier _ => true
  | .identifier _ => true
  | _ => false

end Token

/-- A token in a text, and the offset that a declaration records for it, if one does. -/
structure Lexeme where
  token : Token
  offset : Option Nat := none
  deriving DecidableEq, Repr

/-- Lexemes laid out from an offset on: each token stands where its offset says, with layout after it.
The layout is not empty where the token would run on into an ASCII letter, digit or underscore. -/
inductive Laid (rest : List Char) : Nat → List Lexeme → List Char → Prop where
  | done {start : Nat} : Laid rest start [] []
  | next {start : Nat} {lexeme : Lexeme} {lexemes : List Lexeme} {gap later : List Char}
      (valid : lexeme.token.Valid) (placed : ∀ offset ∈ lexeme.offset, offset = start)
      (gapped : Layout (later ++ rest = []) gap)
      (apart : lexeme.token.runsOn = true → gap = [] →
        ∀ char ∈ (later ++ rest).head?, Grammar.continuesQualifier char = false)
      (more : Laid rest (start + lexeme.token.chars.length + gap.length) lexemes later) :
      Laid rest start (lexeme :: lexemes) (lexeme.token.chars ++ gap ++ later)

/-- A token that runs on into nothing may stand right before what follows. -/
theorem Laid.tight {rest later : List Char} {start : Nat} {token : Token} {lexemes : List Lexeme}
    (valid : token.Valid) (ends : token.runsOn = false)
    (more : Laid rest (start + token.chars.length) lexemes later) :
    Laid rest start (⟨token, none⟩ :: lexemes) (token.chars ++ later) := by
  rw [← List.append_nil token.chars]
  refine .next valid (by simp) .nothing (fun runs => ?_) more
  rw [ends] at runs
  cases runs

/-- An identifier may stand right before a mark. -/
theorem Laid.marked {rest later : List Char} {start : Nat} {name mark : String} {first : Char}
    {others : List Char} {lexemes : List Lexeme} (valid : (Token.identifier name).Valid)
    (begins : mark.toList = first :: others) (apart : Grammar.continuesQualifier first = false)
    (more : Laid rest (start + name.toList.length) lexemes (mark.toList ++ later)) :
    Laid rest start (⟨.identifier name, none⟩ :: lexemes)
      (name.toList ++ (mark.toList ++ later)) := by
  rw [← List.append_nil name.toList]
  refine .next valid (by simp) .nothing (fun _ _ char follows => ?_) more
  rw [begins] at follows
  cases follows
  exact apart

/-- A statement of a hierarchy block. -/
inductive Statement where
  | order (first : Mention) (others : List Mention)
  | subtype (edge : EdgeDeclaration)
  | baseline (qualifier : Mention)
  deriving DecidableEq, Repr

/-- A constraint as it is written: the digits of its position, and a severity and a label or none. -/
structure WrittenConstraint where
  offset : Nat
  left : String
  right : String
  digits : List Char
  severity : Option Severity
  label : Option String
  deriving DecidableEq, Repr

/-- The items of unit files. -/
inductive Item where
  | hierarchy (offset : Nat) (statements : List Statement)
  | reference (declaration : ReferenceDeclaration)
  | constraint (written : WrittenConstraint)
  deriving DecidableEq, Repr

def Mention.lexeme (mention : Mention) : Lexeme := ⟨.qualifier mention.name, some mention.offset⟩

/-- Qualifiers with commas between them. -/
def listLexemes (first : Mention) (others : List Mention) : List Lexeme :=
  first.lexeme :: others.flatMap fun mention => [⟨.mark ",", none⟩, mention.lexeme]

/-- Qualifiers between braces, of which there may be none. -/
def setLexemes : List Mention → List Lexeme
  | [] => [⟨.mark "\x7b", none⟩, ⟨.mark "\x7d", none⟩]
  | first :: others =>
    ⟨.mark "\x7b", none⟩ :: (listLexemes first others ++ [⟨.mark "\x7d", none⟩])

def Statement.lexemes : Statement → List Lexeme
  | .order first others =>
    ⟨.keyword "order", none⟩ :: (listLexemes first others ++ [⟨.mark ";", none⟩])
  | .subtype edge => [
    ⟨.keyword "subtype", none⟩, ⟨.qualifier edge.lower, some edge.offset⟩, ⟨.mark "<:", none⟩,
    ⟨.qualifier edge.upper, none⟩, ⟨.mark ";", none⟩]
  | .baseline qualifier => [⟨.keyword "baseline", none⟩, qualifier.lexeme, ⟨.mark ";", none⟩]

/-- A kind by its word, and the identifier that an adapted kind views. -/
def kindLexemes (kind : Kind String) : List Lexeme :=
  ⟨.keyword kind.flavour.label, none⟩ ::
    match kind.declaration? with
    | some identifier =>
      [⟨.mark "(", none⟩, ⟨.identifier identifier, none⟩, ⟨.mark ")", none⟩]
    | none => []

def OptionDeclaration.lexemes (option : OptionDeclaration) : List Lexeme :=
  match option.key with
  | .crypt => [⟨.keyword "crypt", none⟩, ⟨.qualifier option.value, some option.offset⟩]
  | .name => [⟨.keyword "name", some option.offset⟩, ⟨.quoted option.value, none⟩]
  | .element => [⟨.keyword "element", some option.offset⟩, ⟨.identifier option.value, none⟩]

/-- The tokens of an item in grammar order. -/
def Item.lexemes : Item → List Lexeme
  | .hierarchy offset statements =>
    [⟨.keyword "hierarchy", some offset⟩, ⟨.mark "\x7b", none⟩] ++
      statements.flatMap Statement.lexemes ++ [⟨.mark "\x7d", none⟩]
  | .reference declaration =>
    [⟨.keyword "ref", some declaration.offset⟩, ⟨.identifier declaration.identifier, none⟩,
      ⟨.mark ":", none⟩] ++ kindLexemes declaration.kind ++ setLexemes declaration.qualifiers ++
      declaration.options.flatMap OptionDeclaration.lexemes ++ [⟨.mark ";", none⟩]
  | .constraint written =>
    [⟨.keyword "constraint", some written.offset⟩, ⟨.identifier written.left, none⟩,
      ⟨.mark "<:", none⟩, ⟨.identifier written.right, none⟩, ⟨.mark "@", none⟩,
      ⟨.digits written.digits, none⟩] ++
      written.severity.toList.map (fun severity => ⟨.keyword severity.label, none⟩) ++
      written.label.toList.map (fun label => ⟨.quoted label, none⟩) ++ [⟨.mark ";", none⟩]

namespace Statement

def ranked : Statement → List Mention
  | .order first others => first :: others
  | _ => []

def edge? : Statement → Option EdgeDeclaration
  | .subtype edge => some edge
  | _ => none

def baseline? : Statement → Option Mention
  | .baseline qualifier => some qualifier
  | _ => none

def isOrder : Statement → Bool
  | .order _ _ => true
  | _ => false

end Statement

/-- The declaration that an item stands for. The statements of a block are merged: the orders one after
the other, the edges in order, the last baseline. -/
def Item.declaration : Item → Declaration
  | .hierarchy offset statements => .hierarchy {
      offset
      order := statements.flatMap Statement.ranked
      edges := statements.filterMap Statement.edge?
      baseline := (statements.filterMap Statement.baseline?).getLast?
      ordered := statements.any Statement.isOrder }
  | .reference declaration => .reference declaration
  | .constraint written => .constraint {
      offset := written.offset
      left := written.left
      right := written.right
      position := ofDigits written.digits
      severity := written.severity
      label := written.label.getD "" }

/-- A text in which items are laid out: layout, and then their tokens with layout after each. -/
def LaidOut (items : List Item) (text : List Char) : Prop :=
  ∃ lead body, text = lead ++ body ∧ Layout (body = []) lead ∧
    Laid [] lead.length (items.flatMap Item.lexemes) body

/-- A text renders items if they are laid out in it, and no position has more digits than a numeral may
have. -/
def Renders (items : List Item) (text : List Char) : Prop :=
  LaidOut items text ∧
    ∀ written, .constraint written ∈ items → written.digits.length ≤ Text.digitLimit

end SchemeTyping.AnalysisUnit
