import SchemeTyping.AnalysisUnit.Loading
import SchemeTyping.Files.Tree
import SchemeTyping.Text.Newline
import SchemeTyping.Text.Utf8

/-! Loading analysis units from files. The source of a unit is the path that it was read from. -/
namespace SchemeTyping.AnalysisUnit

/-- Why a file yields no unit. No file has a name with a null character. -/
inductive FileFault where
  | nullCharacter
  | unreadable (reason : FileTree.Reason)
  | undecodable (fault : Text.Utf8.Fault)
  | malformed (fault : LoadFault)
  deriving DecidableEq, Repr

/-- The diagnostic on a fault, if it is one to report. A file that cannot be read has no line. -/
def FileFault.diagnostic? (fault : FileFault) (source : String) : Option Diagnostic :=
  match fault with
  | .nullCharacter => none
  | .unreadable reason =>
    some ⟨.file, "cannot read unit: " ++ reason.message, .unreadableUnit, { file := source }, ""⟩
  | .undecodable fault =>
    some ⟨.file, "unit is not valid UTF-8: " ++ fault.reason.message ++ " at byte " ++
      toString fault.offset, .unreadableUnit, { file := source }, "CTSL units must be UTF-8 text"⟩
  | .malformed fault => fault.diagnostic?

/-- What loading a file yields, and what is told about it. -/
structure FileLoading where
  journal : List Entry
  result : Except FileFault AnalysisUnit

/-- Load a unit from the octets of a file. -/
def loadOctets (octets : List UInt8) (source : String) : FileLoading :=
  match Text.Utf8.decode octets with
  | .error fault => ⟨[], .error (.undecodable fault)⟩
  | .ok text =>
    let loading := load (Text.unifyNewlines text) source
    ⟨loading.journal, loading.result.mapError FileFault.malformed⟩

/-- Load the unit to which a path leads from a directory. -/
def loadFile (tree : FileTree) (directory : List String) (path : Path) : FileLoading :=
  if '\x00' ∈ path.toText.toList then ⟨[], .error .nullCharacter⟩
  else
    match tree.read directory path with
    | .error reason => ⟨[], .error (.unreadable reason)⟩
    | .ok octets => loadOctets octets path.toText

end SchemeTyping.AnalysisUnit
