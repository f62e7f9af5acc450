import SchemeTyping.Command.Run

/-! The program. It takes from disk what a command line names, runs the command line as a function of
that, writes the two streams, and puts on disk what changed. -/
namespace SchemeTyping.Command

/-- The word that names the file of a destination. -/
def Destination.word? : Destination → Option String
  | .file word => some word
  | _ => none

/-- The words of a task that name files to write. -/
def Task.destinations : Task → List String
  | .extract _ delivery => delivery.output.word?.toList ++ delivery.ledger.toList
  | .check _ => []
  | .hierarchy _ => []

/-- The word of a task that names the unit. -/
def Task.unit? : Task → Option String
  | .extract unit _ => some unit
  | .check unit => some unit
  | .hierarchy unit => unit

/-- The time of day at a number of seconds since a midnight. -/
def clockOf (seconds : Nat) : String :=
  let two (value : Nat) : String := (if value < 10 then "0" else "") ++ toString value
  two (seconds / 3600 % 24) ++ ":" ++ two (seconds / 60 % 60) ++ ":" ++ two (seconds % 60)

/-- The first number in a text. -/
def firstNumber (text : List Char) : Nat :=
  let digits := (text.dropWhile fun char => !char.isDigit).takeWhile Char.isDigit
  digits.foldl (fun number digit => number * 10 + (digit.toNat - '0'.toNat)) 0

/-- The lines of a system file, none if it cannot be read. -/
def systemLines (name : String) : IO (List (List Char)) := do
  try return Text.pieces '\n' (← IO.FS.readFile name).toList
  catch _ => return []

/-- Seconds since the epoch: those at start-up of the system and those since then. -/
def secondsNow : IO Nat := do
  let started := (← systemLines "/proc/stat").find? fun line => "btime".toList.isPrefixOf line
  let passed := (← systemLines "/proc/uptime").head?
  return firstNumber (started.getD []) + firstNumber (passed.getD [])

/-- The homes of users, with that of the current user under the empty name. -/
def findHomes : IO (Table String Path) := do
  let listed := (← systemLines "/etc/passwd").filterMap fun line =>
    match (Text.pieces ':' line).map String.ofList with
    | [name, _, _, _, _, home, _] => some (name, Path.ofText home)
    | _ => none
  let own := (← IO.getEnv "HOME").map fun home =>
    ("", if home = "" then Path.fromRoot [] else Path.ofText home)
  return Table.ofList (listed ++ own.toList)

def findSurroundings : IO Surroundings := do
  let directory := (Path.ofText (toString (← IO.currentDir))).parts
  let levelName := (← IO.getEnv "CTSL_LOG_LEVEL").getD ""
  return ⟨directory, ← findHomes, levelName, clockOf (← secondsNow)⟩

/-- What stands at a place on disk. Only a file whose content matters is read. -/
def nodeOnDisk (place : List String) (matters : Bool) : IO (Option Node) := do
  let name := (Path.fromRoot place).toText
  try
    if matters then return some (.file (← IO.FS.readBinFile name).data.toList)
    let _ ← IO.FS.Handle.mk name .readWrite
    return some (.file [])
  catch
    | .inappropriateType .. => return some .directory
    | _ => return none

/-- Take up what stands at the places on the way down a path, as far as there are directories. -/
def takeDown (tree : FileTree) (place : List String) (matters : Bool) :
    List String → IO FileTree
  | [] => return tree
  | part :: rest => do
    let place := place ++ [part]
    match ← nodeOnDisk place (matters && rest.isEmpty) with
    | some .directory => takeDown (tree.put place .directory) place matters rest
    | some node => return tree.put place node
    | none => return tree

def takeUp (around : Surroundings) (matters : Bool) (tree : FileTree) (word : String) :
    IO FileTree :=
  match around.resolve word with
  | .error _ => return tree
  | .ok path => takeDown tree [] matters path.parts

/-- The file tree as far as a command line names it. The unit comes last, so that its content is
there even if it is a destination as well. -/
def treeOnDisk (around : Surroundings) (words : List String) : IO FileTree := do
  match Request.ofWords words with
  | .ok ⟨_, some task⟩ =>
    let tree ← task.destinations.foldlM (takeUp around false) FileTree.bare
    task.unit?.toList.foldlM (takeUp around true) tree
  | _ => return FileTree.bare

/-- Put a changed node on disk. -/
def putOnDisk (before : FileTree) (entry : List String × Node) : IO Unit := do
  if before.node? entry.1 != some entry.2 then
    let name := (Path.fromRoot entry.1).toText
    match entry.2 with
    | .directory => IO.FS.createDir name
    | .file content => IO.FS.writeBinFile name ⟨content.toArray⟩
    | .sink => return

end SchemeTyping.Command

open SchemeTyping.Command in
def main (words : List String) : IO UInt32 := do
  let around ← findSurroundings
  let tree ← treeOnDisk around words
  let outcome := run around tree words
  IO.print outcome.output
  IO.eprint outcome.errors
  outcome.tree.nodes.entries.forM (putOnDisk tree)
  match outcome.ending with
  | .exit code => return code.toUInt32
  | .crash crash => throw (IO.userError crash.message)
