import SchemeTyping.Command.Item
import SchemeTyping.Report

/-! Requests: what a command line asks for. -/
namespace SchemeTyping.Command

/-- Where a report goes: to standard output, to the file that a word names, or nowhere. -/
inductive Destination where
  | standard
  | file (word : String)
  | nowhere
  deriving DecidableEq, Repr

/-- The destination that a value names. A dash means standard output. -/
def Destination.ofValue : Option String → Destination
  | none => .nowhere
  | some word => if word = "-" then .standard else .file word

/-- Where and how the results of an extraction are delivered. Without a value for it the report has
no format. -/
structure Delivery where
  output : Destination := .standard
  format : Option Report.Format := some .text
  ledger : Option String := none
  quiet : Bool := false
  deriving DecidableEq, Repr

/-- What a command is to do. The hierarchy command needs no unit. -/
inductive Task where
  | extract (unit : String) (delivery : Delivery)
  | check (unit : String)
  | hierarchy (unit : Option String)
  deriving DecidableEq, Repr

/-- A whole request. Without a command there is no task. -/
structure Request where
  verbosity : Nat
  task : Option Task
  deriving DecidableEq, Repr

/-- Why reading a command line ends without a request. Mistakes and calls for help belong to the
command that they were made in. -/
inductive Stop where
  | misuse (misuse : Misuse) (verb : Option Verb)
  | help (verb : Option Verb)
  | version
  deriving DecidableEq, Repr

/-- What the words read so far say. -/
structure Reading where
  verbosity : Nat := 0
  delivery : Delivery := {}
  unit : Option String := none
  extra : List String := []
  deriving DecidableEq, Repr

namespace Reading

/-- Take up one use of a switch. A later value replaces an earlier one. -/
def take (verb : Option Verb) (reading : Reading) (use : Use) : Except Stop Reading :=
  let deliver (delivery : Delivery) : Except Stop Reading := .ok { reading with delivery }
  match use.switch with
  | .help => .error (.help verb)
  | .version => .error .version
  | .verbose => .ok { reading with verbosity := reading.verbosity + 1 }
  | .output => deliver { reading.delivery with output := Destination.ofValue use.value }
  | .ledger => deliver { reading.delivery with ledger := use.value }
  | .quiet => deliver { reading.delivery with quiet := true }
  | .format =>
    match use.value with
    | none => deliver { reading.delivery with format := none }
    | some label =>
      match Report.Format.ofLabel? label with
      | some format => deliver { reading.delivery with format := some format }
      | none => .error (.misuse (.unknownFormat label) verb)

def takeAll (verb : Option Verb) (reading : Reading) : List Use → Except Stop Reading
  | [] => .ok reading
  | use :: rest =>
    match reading.take verb use with
    | .error stop => .error stop
    | .ok reading => reading.takeAll verb rest

def leave (reading : Reading) (words : List String) : Reading :=
  { reading with extra := reading.extra ++ words }

/-- Read items in order. The first plain word is the unit; a separator next to it, or without a unit
before it, means nothing more. -/
def read (verb : Option Verb) (reading : Reading) : List Item → Except Stop Reading
  | [] => .ok reading
  | .mistake misuse :: _ => .error (.misuse misuse verb)
  | .uses uses :: rest =>
    match reading.takeAll verb uses with
    | .error stop => .error stop
    | .ok reading => reading.read verb rest
  | .unknown text :: rest => (reading.leave [text]).read verb rest
  | .separator :: rest =>
    match reading.unit with
    | none => reading.read verb rest
    | some _ => (reading.leave [Word.separator]).read verb rest
  | .plain text :: rest =>
    match reading.unit with
    | some _ => (reading.leave [text]).read verb rest
    | none =>
      match rest with
      | .separator :: rest => { reading with unit := some text }.read verb rest
      | rest => { reading with unit := some text }.read verb rest

end Reading

/-- The task of a command whose words have been read. -/
def Verb.task (verb : Verb) (reading : Reading) : Except Stop Task :=
  match verb, reading.unit with
  | .hierarchy, unit => .ok (.hierarchy unit)
  | .extract, some unit => .ok (.extract unit reading.delivery)
  | .check, some unit => .ok (.check unit)
  | verb, none => .error (.misuse .missingUnit (some verb))

/-- Read the words of a command: its task and the words that are left over. -/
def Verb.read (verb : Verb) (texts : List String) : Except Stop (Task × List String) :=
  let known := Switch.known (some verb)
  match Word.classify known texts with
  | .error misuse => .error (.misuse misuse (some verb))
  | .ok words =>
    match ({} : Reading).read (some verb) (Item.ofWords known words) with
    | .error stop => .error stop
    | .ok reading => (verb.task reading).map fun task => (task, reading.extra)

namespace Request

/-- The request of a reading, unless words are left over. -/
def settle (verbosity : Nat) (task : Option Task) (extra : List String) : Except Stop Request :=
  if extra = [] then .ok ⟨verbosity, task⟩ else .error (.misuse (.unrecognized extra) none)

/-- The request that a command line makes. The first plain word is the command, and all words behind
it belong to it. -/
def ofWords (texts : List String) : Except Stop Request :=
  let known := Switch.known none
  match Word.classify known texts with
  | .error misuse => .error (.misuse misuse none)
  | .ok words =>
    let lead := words.takeWhile (·.role != .plain)
    match ({} : Reading).read none (Item.ofWords known lead) with
    | .error stop => .error stop
    | .ok reading =>
      match words.drop lead.length with
      | [] =>
        settle reading.verbosity none
          (reading.extra ++ (lead.filter (·.role == .separator)).map Word.text)
      | word :: rest =>
        if lead.any (·.role == .separator) then
          .error (.misuse (.unknownCommand Word.separator) none)
        else
          match Verb.ofLabel? word.text with
          | none => .error (.misuse (.unknownCommand word.text) none)
          | some verb =>
            match verb.read (rest.map Word.text) with
            | .error stop => .error stop
            | .ok (task, extra) =>
              settle reading.verbosity (some task) (reading.extra ++ extra)

end Request
end SchemeTyping.Command
