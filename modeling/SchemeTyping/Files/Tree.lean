import SchemeTyping.Files.Path

/-! File trees: what stands at each place, how a path leads to a place, and how reading and writing
change the tree or fail. -/
namespace SchemeTyping

/-- What stands at a place: a directory, a file with its octets, or a sink, which reads as empty and
drops what is written to it. -/
inductive Node where
  | directory
  | file (content : List UInt8)
  | sink
  deriving DecidableEq, Repr

/-- The nodes of a tree by their place, the names on the way from the root. -/
structure FileTree where
  nodes : Table (List String) Node
  deriving DecidableEq, Repr

namespace FileTree

/-- Why a path cannot be used. -/
inductive Reason where
  | missing
  | existing
  | notDirectory
  | isDirectory
  | tooLong
  deriving DecidableEq, Repr

def Reason.number : Reason → Nat
  | .missing => 2
  | .existing => 17
  | .notDirectory => 20
  | .isDirectory => 21
  | .tooLong => 36

def Reason.message : Reason → String
  | .missing => "No such file or directory"
  | .existing => "File exists"
  | .notDirectory => "Not a directory"
  | .isDirectory => "Is a directory"
  | .tooLong => "File name too long"

/-- A path that cannot be used, and why. -/
structure Fault where
  reason : Reason
  path : Path
  deriving DecidableEq, Repr

/-- The tree that holds the root alone. -/
def bare : FileTree := ⟨Table.empty.put [] .directory⟩

def node? (tree : FileTree) (place : List String) : Option Node := tree.nodes.find? place

def put (tree : FileTree) (place : List String) (node : Node) : FileTree :=
  ⟨tree.nodes.put place node⟩

/-- The most octets that a name may have. -/
def nameLimit : Nat := 255

/-- The most octets that the text of a path may have. -/
def pathLimit : Nat := 4095

/-- Follow parts down from a place. Every node passed through has to be a directory; what stands at
the end, if anything, does not matter. -/
def walk (tree : FileTree) (place : List String) : List String → Except Reason (List String)
  | [] => .ok place
  | part :: rest =>
    match tree.node? place with
    | none => .error .missing
    | some .directory =>
      if nameLimit < part.utf8ByteSize then .error .tooLong
      else if part = ".." then tree.walk place.dropLast rest
      else tree.walk (place ++ [part]) rest
    | some _ => .error .notDirectory

/-- The place to which a path leads from a directory. -/
def reach (tree : FileTree) (directory : List String) (path : Path) :
    Except Reason (List String) :=
  if pathLimit < path.toText.utf8ByteSize then .error .tooLong
  else if path.isAbsolute then tree.walk [] path.parts
  else tree.walk directory path.parts

/-- The node to which a path leads. -/
def find (tree : FileTree) (directory : List String) (path : Path) : Except Reason Node :=
  match tree.reach directory path with
  | .error reason => .error reason
  | .ok place =>
    match tree.node? place with
    | none => .error .missing
    | some node => .ok node

def isDirectory (tree : FileTree) (directory : List String) (path : Path) : Bool :=
  match tree.find directory path with
  | .ok .directory => true
  | _ => false

/-- The octets of a file. -/
def read (tree : FileTree) (directory : List String) (path : Path) :
    Except Reason (List UInt8) :=
  match tree.find directory path with
  | .error reason => .error reason
  | .ok .directory => .error .isDirectory
  | .ok (.file content) => .ok content
  | .ok .sink => .ok []

/-- Write a file in an existing directory, whether or not it was there before. -/
def write (tree : FileTree) (path : Path) (content : List UInt8) : Except Fault FileTree :=
  match tree.reach [] path with
  | .error reason => .error ⟨reason, path⟩
  | .ok place =>
    match tree.node? place with
    | some .directory => .error ⟨.isDirectory, path⟩
    | some .sink => .ok tree
    | _ => .ok (tree.put place (.file content))

/-- Make a directory in an existing one. -/
def makeDirectory (tree : FileTree) (path : Path) : Except Fault FileTree :=
  match tree.reach [] path with
  | .error reason => .error ⟨reason, path⟩
  | .ok place =>
    match tree.node? place with
    | some _ => .error ⟨.existing, path⟩
    | none => .ok (tree.put place .directory)

/-- Accept a failed attempt at a directory that is there anyway. -/
def tolerate (tree : FileTree) (fault : Fault) : FileTree × Option Fault :=
  (tree, if tree.isDirectory [] fault.path then none else some fault)

/-- Make the directory of a path, given from its last part to its first, and those above it as far
as they are missing. A failure keeps the directories made before it. -/
def ensureUpward (tree : FileTree) : List String → FileTree × Option Fault
  | [] => (tree, none)
  | last :: above =>
    let path := Path.fromRoot (last :: above).reverse
    match tree.makeDirectory path with
    | .ok tree => (tree, none)
    | .error fault =>
      if fault.reason = .missing then
        match tree.ensureUpward above with
        | (tree, some fault) => (tree, some fault)
        | (tree, none) =>
          match tree.makeDirectory path with
          | .ok tree => (tree, none)
          | .error fault => tree.tolerate fault
      else tree.tolerate fault

/-- Make an absolute directory and those above it as far as they are missing. -/
def ensureDirectory (tree : FileTree) (path : Path) : FileTree × Option Fault :=
  tree.ensureUpward path.parts.reverse

end FileTree
end SchemeTyping
