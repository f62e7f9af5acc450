import SchemeTyping.Extraction.Setting
import SchemeTyping.Files.Tree
import SchemeTyping.Journal
import SchemeTyping.Text.Quoted

/-! Effects of a run: what it has written to the file tree, to standard output and to the journal. A
step has effects even where the run ends with it. -/
namespace SchemeTyping.Command

/-- Why a run breaks off without an exit code. A numeral may be too long to be read or to be written. -/
inductive Crash where
  | homeless
  | nullCharacter
  | nowhere
  | formless
  | unusable (fault : FileTree.Fault)
  | numeralTooLong
  | engine (failure : Failure)
  deriving DecidableEq, Repr

def Crash.message : Crash → String
  | .homeless => "Could not determine home directory."
  | .nullCharacter => "embedded null byte"
  | .nowhere => "expected str, bytes or os.PathLike object, not list"
  | .formless => "'list' object has no attribute 'upper'"
  | .unusable fault =>
    "[Errno " ++ toString fault.reason.number ++ "] " ++ fault.reason.message ++ ": " ++
      Text.quoted fault.path.toText.toList
  | .numeralTooLong => "position with too many digits"
  | .engine failure => failure.message

/-- How a run ends. -/
inductive Ending where
  | exit (code : Nat)
  | crash (crash : Crash)
  deriving DecidableEq, Repr

/-- What a run has done so far. -/
structure Effects where
  tree : FileTree
  output : String := ""
  journal : List Entry := []
  deriving DecidableEq, Repr

/-- A step of a run: its effects, and a value unless the run ends with it. -/
abbrev Step (Value : Type) := Effects × Except Ending Value

namespace Step
variable {Value Next : Type}

/-- Go on with the value of a step. -/
def andThen (step : Step Value) (next : Effects → Value → Step Next) : Step Next :=
  match step with
  | (effects, .error ending) => (effects, .error ending)
  | (effects, .ok value) => next effects value

/-- The ending of a step whose value is an exit code. -/
def ending (step : Step Nat) : Ending :=
  match step.2 with
  | .ok code => .exit code
  | .error ending => ending

end Step

namespace Effects

def crash {Value : Type} (effects : Effects) (crash : Crash) : Step Value :=
  (effects, .error (.crash crash))

def tell (effects : Effects) (level : Level) (text : String) : Effects :=
  { effects with journal := effects.journal ++ [⟨level, Channel.command, text⟩] }

def append (effects : Effects) (journal : List Entry) : Effects :=
  { effects with journal := effects.journal ++ journal }

def print (effects : Effects) (text : String) : Effects :=
  { effects with output := effects.output ++ text }

/-- Write a file in a directory that is there. -/
def write (effects : Effects) (path : Path) (text : String) : Step Unit :=
  match effects.tree.write path text.toUTF8.data.toList with
  | .error fault => effects.crash (.unusable fault)
  | .ok tree => ({ effects with tree }, .ok ())

/-- Make the directories above a file. -/
def makeAbove (effects : Effects) (path : Path) : Step Unit :=
  match effects.tree.ensureDirectory path.parent with
  | (tree, some fault) => { effects with tree }.crash (.unusable fault)
  | (tree, none) => ({ effects with tree }, .ok ())

/-- Write a file, with the directories above it. -/
def writeBelow (effects : Effects) (path : Path) (text : String) : Step Unit :=
  (effects.makeAbove path).andThen fun effects _ => effects.write path text

/-- Write to a file, or without one to standard output. -/
def deliver (effects : Effects) (output : Option Path) (text : String) : Step Unit :=
  match output with
  | none => (effects.print text, .ok ())
  | some path => effects.write path text

end Effects
end SchemeTyping.Command
