/-! Switches: the words that begin with a dash, and the commands that know them. -/
namespace SchemeTyping.Command

/-- The commands. -/
inductive Verb where
  | extract
  | check
  | hierarchy
  deriving DecidableEq, Repr

namespace Verb

def all : List Verb := [.extract, .check, .hierarchy]

/-- The word for a command. -/
def label : Verb → String
  | .extract => "extract"
  | .check => "check"
  | .hierarchy => "hierarchy"

def ofLabel? (label : String) : Option Verb := all.find? (·.label == label)

end Verb

/-- What a switch is about. -/
inductive Switch where
  | help
  | version
  | verbose
  | output
  | format
  | ledger
  | quiet
  deriving DecidableEq, Repr

namespace Switch

/-- The names of a switch: single letters behind one dash, words behind two. -/
def names : Switch → List String
  | .help => ["-h", "--help"]
  | .version => ["--version"]
  | .verbose => ["-v", "--verbose"]
  | .output => ["-o", "--output"]
  | .format => ["-f", "--format"]
  | .ledger => ["--ledger"]
  | .quiet => ["--quiet-diagnostics"]

/-- Some switches come with a value. -/
def takesValue : Switch → Bool
  | .output => true
  | .format => true
  | .ledger => true
  | _ => false

/-- The switches known before the command, or to a command. -/
def known : Option Verb → List Switch
  | none => [.help, .version, .verbose]
  | some .extract => [.help, .output, .format, .ledger, .quiet]
  | some .check => [.help]
  | some .hierarchy => [.help]

/-- The switch of a name among those that are known. -/
def ofName? (known : List Switch) (name : String) : Option Switch :=
  known.find? fun switch => switch.names.contains name

end Switch

/-- Mistakes in the use of the command line. -/
inductive Misuse where
  | ambiguous (word : String)
  | unwantedValue (switch : Switch) (value : String)
  | missingValue (switch : Switch)
  | unknownFormat (value : String)
  | unknownCommand (word : String)
  | missingUnit
  | unrecognized (words : List String)
  deriving DecidableEq, Repr

end SchemeTyping.Command
