import SchemeTyping.Journal
import SchemeTyping.Table
import SchemeTyping.Text.Upper

/-! The log: which entries of a journal are written out, and how. Channels form a tree by the dots in
their names, and an entry is handled by the loggers of its own channel and of all channels above. -/
namespace SchemeTyping

/-- What a channel does with entries. Level zero leaves the threshold to the channel above; each
handler writes an entry out once. -/
structure Logger where
  level : Nat := 0
  handlers : Nat := 0
  deriving DecidableEq, Repr

/-- Loggers by channel. A channel without one has no level and no handler. -/
structure Log where
  loggers : Table String Logger := Table.empty

/-- An entry as a handler writes it: the time, the level cut or filled up to five characters, the
channel and the text. -/
def Entry.line (entry : Entry) (clock : String) : String :=
  let title := entry.level.title.toList.take 5
  clock ++ " [" ++ String.ofList (title ++ List.replicate (5 - title.length) ' ') ++ "] " ++
    entry.channel ++ ": " ++ entry.text ++ "\n"

/-- The names before the points of a name, which is read from its end. A cut leaves a part before it, and a
point right before a cut does not count. -/
def Channel.cuts : List Char → List (List Char)
  | '.' :: char :: rest => (char :: rest) :: cuts rest
  | _ :: rest => cuts rest
  | [] => []

/-- A channel and the channels above it, from the bottom up. -/
def Channel.lineage (channel : String) : List String :=
  channel :: (cuts channel.toList.reverse).map fun name => String.ofList name.reverse

namespace Log

def fresh : Log := {}

def logger (log : Log) (channel : String) : Logger := (log.loggers.find? channel).getD {}

/-- The threshold where no channel sets one. -/
def defaultThreshold : Nat := Level.warning.code

/-- The level from which on entries of a channel are handled. -/
def threshold (log : Log) (channel : String) : Nat :=
  (((Channel.lineage channel).map fun name => (log.logger name).level).find? (· != 0)).getD
    defaultThreshold

/-- How often an entry of a channel is written out. -/
def handlers (log : Log) (channel : String) : Nat :=
  ((Channel.lineage channel).map fun name => (log.logger name).handlers).foldr (· + ·) 0

/-- What is written for an entry. Without any handler, warnings and worse are written bare. -/
def emit (log : Log) (clock : String) (entry : Entry) : String :=
  if entry.level.code < log.threshold entry.channel then ""
  else if log.handlers entry.channel = 0 then
    if Level.warning.code ≤ entry.level.code then entry.text ++ "\n" else ""
  else String.join (List.replicate (log.handlers entry.channel) (entry.line clock))

/-- What is written for a journal. -/
def emitAll (log : Log) (clock : String) (journal : List Entry) : String :=
  String.join (journal.map (log.emit clock))

/-- The level that a verbosity stands for. -/
def levelOfVerbosity (verbosity : Int) : Nat :=
  if verbosity = 1 then Level.info.code
  else if 2 ≤ verbosity then Level.debug.code
  else Level.warning.code

/-- The level that a name in capitals stands for. -/
def levelOfName? : String → Option Nat
  | "CRITICAL" => some Level.critical.code
  | "FATAL" => some Level.critical.code
  | "ERROR" => some Level.error.code
  | "WARN" => some Level.warning.code
  | "WARNING" => some Level.warning.code
  | "INFO" => some Level.info.code
  | "DEBUG" => some Level.debug.code
  | "NOTSET" => some 0
  | _ => none

/-- The level to set: the named one if the name stands for a level, else that of the verbosity. -/
def chosenLevel (verbosity : Int) (name : String) : Nat :=
  (levelOfName? (Text.upper name)).getD (levelOfVerbosity verbosity)

/-- What is told about a level name: a name that stands for no level is ignored, and the empty name
means that none is given. -/
def notice (name : String) : List Entry :=
  let name := Text.upper name
  if name = "" || (levelOfName? name).isSome then []
  else [⟨.warning, Channel.command, "Ignoring invalid CTSL_LOG_LEVEL=" ++ name⟩]

/-- The channels that are configured. -/
def configured : List String := [Channel.command, Channel.engine]

/-- Set the level of a channel and give it a handler unless it has one. -/
def install (level : Nat) (log : Log) (channel : String) : Log :=
  ⟨log.loggers.put channel ⟨level, max 1 (log.logger channel).handlers⟩⟩

/-- Configure the log for a verbosity and a level name, which may be empty. -/
def configure (log : Log) (verbosity : Int) (name : String) : Log :=
  configured.foldl (install (chosenLevel verbosity name)) log

end Log
end SchemeTyping
