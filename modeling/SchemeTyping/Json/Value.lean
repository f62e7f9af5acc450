import SchemeTyping.Text.Numeral

/-! JSON values with whole numbers, and the order of their keys. -/
namespace SchemeTyping.Json

/-- A JSON value. Fields keep the order in which they are given. -/
inductive Value where
  | null
  | flag (value : Bool)
  | number (value : Int)
  | text (value : String)
  | list (items : List Value)
  | record (fields : List (String × Value))

/-- The value of a number that was given in some form. -/
def Value.ofNumber (number : Int) : Text.Spelling → Value
  | .digits => .number number
  | .truth => .flag (number != 0)

/-- Fields in the order of their keys by code point; equal keys keep their order. -/
def sortFields {Content : Type} (fields : List (String × Content)) : List (String × Content) :=
  fields.mergeSort fun first second => decide (first.1 ≤ second.1)

mutual
/-- The same value with the fields of every record in the order of their keys. -/
def Value.sorted : Value → Value
  | .list items => .list (sortedItems items)
  | .record fields => .record (sortFields (sortedFields fields))
  | value => value

def sortedItems : List Value → List Value
  | [] => []
  | value :: rest => value.sorted :: sortedItems rest

def sortedFields : List (String × Value) → List (String × Value)
  | [] => []
  | (key, value) :: rest => (key, value.sorted) :: sortedFields rest
end

end SchemeTyping.Json
