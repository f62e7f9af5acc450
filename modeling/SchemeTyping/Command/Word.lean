import SchemeTyping.Command.Switch
import SchemeTyping.Text.Digit

/-! The words of a command line and the parts they play. A switch may be shortened as long as one
name is meant, and may have text attached behind an equals sign; a single letter does not need the
sign. Behind the separator every word is plain. -/
namespace SchemeTyping.Command

/-- What is attached to the name of a switch: text joined to a single letter, with or without an
equals sign between them, or text behind the equals sign that ends a longer name. -/
inductive Attachment where
  | nothing
  | joined (text : List Char)
  | marked (text : List Char)
  deriving DecidableEq, Repr

/-- The part that a word plays. -/
inductive Role where
  | plain
  | separator
  | named (switch : Switch) (attachment : Attachment)
  | unknown
  deriving DecidableEq, Repr

namespace Role

/-- Cut a text at its first equals sign. -/
def cut (text : List Char) : List Char × Option (List Char) :=
  match text.dropWhile (· != '=') with
  | [] => (text, none)
  | _ :: value => (text.takeWhile (· != '='), some value)

/-- The switches that a word may mean if it is not a full name. -/
def candidates (known : List Switch) : List Char → List (Switch × Attachment)
  | '-' :: '-' :: rest =>
    let (start, value) := cut ('-' :: '-' :: rest)
    let attachment := value.elim .nothing .marked
    known.flatMap fun switch =>
      (switch.names.filter fun name => start.isPrefixOf name.toList).map fun _ =>
        (switch, attachment)
  | '-' :: letter :: rest =>
    match Switch.ofName? known (String.ofList ['-', letter]) with
    | some switch => [(switch, .joined rest)]
    | none => []
  | _ => []

/-- Digits, or a point with at least one digit behind it. -/
def isNumeral (text : List Char) : Bool :=
  match text.dropWhile Text.isDigit with
  | [] => !text.isEmpty
  | '.' :: fraction => !fraction.isEmpty && fraction.all Text.isDigit
  | _ => false

/-- A dash and a numeral, perhaps at the end of a line. -/
def isNegativeNumber : List Char → Bool
  | '-' :: rest => isNumeral (if rest.getLast? = some '\n' then rest.dropLast else rest)
  | _ => false

/-- The part of a word that begins with a dash and is no full name. -/
def guess (known : List Switch) (text : List Char) : Except Misuse Role :=
  match candidates known text with
  | [] => .ok (if isNegativeNumber text || text.contains ' ' then .plain else .unknown)
  | [(switch, attachment)] => .ok (.named switch attachment)
  | _ => .error (.ambiguous (String.ofList text))

/-- The part that a word before the separator plays. A single dash is plain. -/
def ofText (known : List Switch) (text : String) : Except Misuse Role :=
  match text.toList with
  | '-' :: second :: rest =>
    match Switch.ofName? known text with
    | some switch => .ok (.named switch .nothing)
    | none =>
      let (start, value) := cut ('-' :: second :: rest)
      match value, Switch.ofName? known (String.ofList start) with
      | some value, some switch =>
        .ok (.named switch (if second = '-' then .marked value else .joined value))
      | _, _ => guess known ('-' :: second :: rest)
  | _ => .ok .plain

end Role

/-- A word and its part. -/
structure Word where
  text : String
  role : Role
  deriving DecidableEq, Repr

namespace Word

/-- The word behind which all words are plain. -/
def separator : String := "--"

/-- The words of a command line with their parts. -/
def classify (known : List Switch) : List String → Except Misuse (List Word)
  | [] => .ok []
  | text :: rest =>
    if text = separator then
      .ok (⟨text, .separator⟩ :: rest.map fun text => ⟨text, .plain⟩)
    else
      match Role.ofText known text with
      | .error misuse => .error misuse
      | .ok role => (classify known rest).map (⟨text, role⟩ :: ·)

end Word
end SchemeTyping.Command
