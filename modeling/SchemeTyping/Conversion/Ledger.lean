import SchemeTyping.Constraint.Basic
import SchemeTyping.Conversion.Basic
import SchemeTyping.Json.Printer
import SchemeTyping.Table

/-! The conversion ledger. It keeps every conversion under the identifier it is attributed to, and
the first constraint of each pair of position and left identifier, which is the one that is
reported. -/
namespace SchemeTyping

/-- The position and the left identifier by which conversions are reported once. -/
structure ConversionKey where
  position : Int
  left : String
  deriving DecidableEq, Repr

/-- The key under which a conversion of a constraint is reported. -/
def Constraint.key (constraint : Constraint) : ConversionKey :=
  ⟨constraint.position, constraint.left⟩

/-- What is kept of the first conversion under a key: its constraint, and the form in which the
position of the key was given. -/
structure Sighting where
  constraint : Constraint
  spelling : Text.Spelling := .digits
  deriving DecidableEq, Repr

/-- The sighting of a constraint under its own key. -/
def Constraint.sighting (constraint : Constraint) : Sighting := ⟨constraint, constraint.spelling⟩

/-- Conversions by identifier, and what was first recorded under each key. -/
structure Ledger where
  conversions : Table String (List Conversion) := Table.empty
  seen : Table ConversionKey Sighting := Table.empty
  deriving DecidableEq

namespace Ledger

def empty : Ledger := {}

def conversionsFor (ledger : Ledger) (identifier : String) : List Conversion :=
  (ledger.conversions.find? identifier).getD []

/-- A key that no conversion was recorded under yet. -/
def isFresh (ledger : Ledger) (key : ConversionKey) : Bool := !ledger.seen.contains key

/-- Append a conversion under an identifier. The sighting is kept only if its key is fresh. -/
def record (ledger : Ledger) (identifier : String) (conversion : Conversion) (key : ConversionKey)
    (sighting : Sighting) : Ledger where
  conversions :=
    ledger.conversions.put identifier (ledger.conversionsFor identifier ++ [conversion])
  seen := if ledger.isFresh key then ledger.seen.put key sighting else ledger.seen

/-- The number of recorded conversions, repeated ones included. -/
def total (ledger : Ledger) : Nat := ledger.conversions.values.flatten.length

/-- The number of reported conversions. -/
def size (ledger : Ledger) : Nat := ledger.seen.size

def contains (ledger : Ledger) (identifier : String) : Bool :=
  ledger.conversions.contains identifier

/-- Every conversion with its identifier, grouped by identifier. -/
def toList (ledger : Ledger) : List (String × Conversion) :=
  ledger.conversions.entries.flatMap fun entry => entry.2.map fun conversion =>
    (entry.1, conversion)

/-- A conversion as a JSON record. -/
def conversionJson (conversion : Conversion) : Json.Value :=
  .record [("pos", .ofNumber conversion.position conversion.spelling),
    ("from_type", .text conversion.source), ("to_type", .text conversion.target)]

/-- The conversions of each identifier as a JSON record. -/
def json (ledger : Ledger) : Json.Value :=
  .record (ledger.conversions.entries.map fun entry =>
    (entry.1, .list (entry.2.map conversionJson)))

/-- The conversions as JSON text in ledger order, as it is where their positions can be written. -/
def print (ledger : Ledger) (layout : Json.Layout) : String := ledger.json.print layout

/-- The conversions as JSON text in ledger order, unless a position has too many digits. -/
def write (ledger : Ledger) (layout : Json.Layout) : Except Text.TooManyDigits String :=
  Text.whenWritable ledger.json.isWritable (ledger.print layout)

/-- The ledger in one line. -/
def toText (ledger : Ledger) : String :=
  "ConversionLedger(" ++ toString ledger.conversions.size ++ " reference(s), " ++
    toString ledger.total ++ " conversion(s))"

end Ledger
end SchemeTyping
