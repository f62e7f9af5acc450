/-! Journals: what the program tells about its own work, in order, each entry with a level and the
channel it is told on. -/
namespace SchemeTyping

/-- How urgent an entry is: a number, and a name for some of the numbers. -/
structure Level where
  code : Nat
  deriving DecidableEq, Repr

namespace Level

def debug : Level := ⟨10⟩

def info : Level := ⟨20⟩

def warning : Level := ⟨30⟩

def error : Level := ⟨40⟩

def critical : Level := ⟨50⟩

/-- The name of a level, or else its number. -/
def title (level : Level) : String :=
  match level.code with
  | 0 => "NOTSET"
  | 10 => "DEBUG"
  | 20 => "INFO"
  | 30 => "WARNING"
  | 40 => "ERROR"
  | 50 => "CRITICAL"
  | code => "Level " ++ toString code

end Level

/-- One entry of a journal. -/
structure Entry where
  level : Level
  channel : String
  text : String
  deriving DecidableEq, Repr

namespace Channel

/-- The channel of the command line. -/
def command : String := "ctsl"

/-- The channel on which units are loaded. -/
def loading : String := "ctsl.loader"

/-- The channel above those of the reference store and the extraction pass. -/
def engine : String := "cryptotype_shims"

/-- The channel of the reference store. -/
def references : String := "cryptotype_shims.references"

/-- The channel of the extraction pass. -/
def extraction : String := "cryptotype_shims.typing_extractor"

end Channel
end SchemeTyping
