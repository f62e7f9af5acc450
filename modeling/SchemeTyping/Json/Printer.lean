import SchemeTyping.Json.Value
import SchemeTyping.Text.Hex

/-! JSON text in ASCII: every character outside space to tilde is escaped, by UTF-16 units where it
has no short form. A layout either puts each item on a line of its own or all on one line. -/
namespace SchemeTyping.Json

/-- A UTF-16 unit as an escape. -/
def escapeUnit (unit : Nat) : List Char := '\\' :: 'u' :: Text.hexDigits 4 unit

/-- One character inside a JSON string. -/
def escapeChar (char : Char) : List Char :=
  if char = '"' then ['\\', '"']
  else if char = '\\' then ['\\', '\\']
  else if char = '\n' then ['\\', 'n']
  else if char = '\r' then ['\\', 'r']
  else if char = '\t' then ['\\', 't']
  else if char.toNat = 0x8 then ['\\', 'b']
  else if char.toNat = 0xC then ['\\', 'f']
  else if 0x20 ≤ char.toNat && char.toNat ≤ 0x7E then [char]
  else if char.toNat < 0x10000 then escapeUnit char.toNat
  else
    escapeUnit (0xD800 + (char.toNat - 0x10000) / 0x400) ++
      escapeUnit (0xDC00 + (char.toNat - 0x10000) % 0x400)

/-- A JSON string. -/
def quote (text : String) : String :=
  String.ofList ('"' :: text.toList.flatMap escapeChar ++ ['"'])

/-- Where items go: each on its own line, indented by so many blanks a level, or all on one line. -/
inductive Layout where
  | lines (indent : Nat)
  | line

/-- What stands before an item at a depth. -/
def Layout.break : Layout → Nat → String
  | .lines indent, depth => String.ofList ('\n' :: List.replicate (indent * depth) ' ')
  | .line, _ => ""

/-- What stands between two items at a depth. -/
def Layout.comma : Layout → Nat → String
  | .lines indent, depth => "," ++ Layout.break (.lines indent) depth
  | .line, _ => ", "

mutual
/-- The text of a value whose first line already stands at a depth. -/
def Value.printAt (layout : Layout) (depth : Nat) : Value → String
  | .null => "null"
  | .flag true => "true"
  | .flag false => "false"
  | .number value => toString value
  | .text value => quote value
  | .list [] => "[]"
  | .list (item :: rest) =>
    "[" ++ layout.break (depth + 1) ++ item.printAt layout (depth + 1) ++
      printItems layout (depth + 1) rest ++ layout.break depth ++ "]"
  | .record [] => "\x7b\x7d"
  | .record ((key, value) :: rest) =>
    "\x7b" ++ layout.break (depth + 1) ++ quote key ++ ": " ++ value.printAt layout (depth + 1) ++
      printFields layout (depth + 1) rest ++ layout.break depth ++ "\x7d"

def printItems (layout : Layout) (depth : Nat) : List Value → String
  | [] => ""
  | item :: rest => layout.comma depth ++ item.printAt layout depth ++ printItems layout depth rest

def printFields (layout : Layout) (depth : Nat) : List (String × Value) → String
  | [] => ""
  | (key, value) :: rest =>
    layout.comma depth ++ quote key ++ ": " ++ value.printAt layout depth ++
      printFields layout depth rest
end

/-- The text of a value, as it is where its numbers can be written. -/
def Value.print (value : Value) (layout : Layout) : String := value.printAt layout 0

mutual
/-- The numbers in a value. -/
def Value.numbers : Value → List Int
  | .number value => [value]
  | .list items => itemNumbers items
  | .record fields => fieldNumbers fields
  | _ => []

def itemNumbers : List Value → List Int
  | [] => []
  | item :: rest => item.numbers ++ itemNumbers rest

def fieldNumbers : List (String × Value) → List Int
  | [] => []
  | (_, value) :: rest => value.numbers ++ fieldNumbers rest
end

/-- Whether the text of a value can be written, which is whether every number in it can. -/
def Value.isWritable (value : Value) : Bool := value.numbers.all Text.hasNumeral

end SchemeTyping.Json
