import SchemeTyping.Table
import SchemeTyping.Text.Pieces

/-! Paths: where they start and the names they go through. Empty names and single dots mean nothing;
double dots are kept, because what they mean depends on where the path leads. -/
namespace SchemeTyping

/-- Where a path starts. A path that begins with exactly two slashes keeps both. -/
inductive Anchor where
  | working
  | root
  | doubleRoot
  deriving DecidableEq, Repr

/-- A path through directories. -/
structure Path where
  anchor : Anchor
  parts : List String
  deriving DecidableEq, Repr

namespace Path

/-- The anchor that a number of leading slashes stands for. -/
def anchorOf : Nat → Anchor
  | 0 => .working
  | 2 => .doubleRoot
  | _ => .root

def ofText (text : String) : Path where
  anchor := anchorOf (text.toList.takeWhile (· == '/')).length
  parts := ((Text.pieces '/' text.toList).map String.ofList).filter fun part =>
    part != "" && part != "."

/-- The path as text. A path without parts from the working directory is a single dot. -/
def toText (path : Path) : String :=
  let names := String.intercalate "/" path.parts
  match path.anchor with
  | .working => if path.parts = [] then "." else names
  | .root => "/" ++ names
  | .doubleRoot => "//" ++ names

/-- The path from the root through the given parts. -/
def fromRoot (parts : List String) : Path := ⟨.root, parts⟩

def isAbsolute (path : Path) : Bool := path.anchor != .working

/-- The parts of a path seen from a directory. -/
def partsFrom (path : Path) (directory : List String) : List String :=
  if path.isAbsolute then path.parts else directory ++ path.parts

/-- Leave out double dots together with the part before them. There is nothing above the root. -/
def collapse (parts : List String) : List String :=
  (parts.foldl (fun above part => if part = ".." then above.tail else part :: above) []).reverse

/-- The absolute path without double dots that a path stands for in a directory. -/
def resolve (path : Path) (directory : List String) : Path :=
  fromRoot (collapse (path.partsFrom directory))

/-- The path of the directory that holds the last part. -/
def parent (path : Path) : Path := { path with parts := path.parts.dropLast }

/-- The user named behind the tilde with which the first part begins. The empty name is that of the
current user. -/
def user? (path : Path) : Option String :=
  match path.anchor, path.parts.map String.toList with
  | .working, ('~' :: user) :: _ => some (String.ofList user)
  | _, _ => none

/-- Replace a first part that names a user by the home of that user. Without such a home there is no
path. -/
def expandHome (path : Path) (homes : Table String Path) : Option Path :=
  match path.user? with
  | none => some path
  | some user =>
    (homes.find? user).map fun home => { home with parts := home.parts ++ path.parts.tail }

end Path
end SchemeTyping
