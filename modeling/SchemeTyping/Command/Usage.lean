import SchemeTyping.Command.Request
import SchemeTyping.Text.Quoted

/-! What the command line says about itself: usage, help, version, and messages on mistakes. -/
namespace SchemeTyping.Command

/-- The name of the program. -/
def program : String := "ctsl"

def versionNumber : String := "0.2.0"

/-- The words on a switch in a usage line. -/
def Switch.usage (switch : Switch) : String :=
  let name := switch.names.headD ""
  if switch.takesValue then "[" ++ name ++ " VALUE]" else "[" ++ name ++ "]"

/-- What follows the switches in a usage line. -/
def operands : Option Verb → String
  | none => "<command> ..."
  | some .extract => "unit"
  | some .check => "unit"
  | some .hierarchy => "[unit]"

/-- The usage line of the program or of one command. -/
def usageLine (verb : Option Verb) : String :=
  let words := match verb with
    | none => [program]
    | some verb => [program, verb.label]
  "usage: " ++ String.intercalate " "
    (words ++ (Switch.known verb).map Switch.usage ++ [operands verb]) ++ "\n"

/-- One line on a command. -/
def Verb.summary : Verb → String
  | .extract => "Run maximal typing, verification and conversion extraction."
  | .check => "Load and validate a unit file."
  | .hierarchy => "Print the qualifier hierarchy of a unit, or the default one."

/-- One line on a switch. -/
def Switch.summary : Switch → String
  | .help => "show this help"
  | .version => "show the version"
  | .verbose => "log more; twice for everything"
  | .output => "file for the report; standard output is -"
  | .format => "form of the report: text or json"
  | .ledger => "file for the conversion ledger, as JSON"
  | .quiet => "no line for each conversion"

/-- The help text of the program or of one command. -/
def helpText (verb : Option Verb) : String :=
  let commands := match verb with
    | none => Verb.all.map fun verb => "  " ++ verb.label ++ ": " ++ verb.summary ++ "\n"
    | some verb => [verb.summary ++ "\n"]
  let switches := (Switch.known verb).map fun switch =>
    "  " ++ String.intercalate ", " switch.names ++ ": " ++ switch.summary ++ "\n"
  usageLine verb ++ "\n" ++ String.join commands ++ "\n" ++ String.join switches

def Misuse.message : Misuse → String
  | .ambiguous word => "ambiguous option: " ++ word
  | .unwantedValue switch value =>
    String.intercalate "/" switch.names ++ " takes no value, not " ++ Text.quoted value.toList
  | .missingValue switch => String.intercalate "/" switch.names ++ " expects a value"
  | .unknownFormat value => "no report format: " ++ Text.quoted value.toList
  | .unknownCommand word => "no command: " ++ Text.quoted word.toList
  | .missingUnit => "a unit is required"
  | .unrecognized words => "unrecognized arguments: " ++ String.intercalate " " words

/-- What is written to standard output. -/
def Stop.output : Stop → String
  | .misuse _ _ => ""
  | .help verb => helpText verb
  | .version => program ++ " " ++ versionNumber ++ "\n"

/-- What is written to standard error. -/
def Stop.errors : Stop → String
  | .misuse mistake verb => usageLine verb ++ program ++ ": error: " ++ mistake.message ++ "\n"
  | .help _ => ""
  | .version => ""

end SchemeTyping.Command
