import SchemeTyping.AnalysisUnit.File
import SchemeTyping.Proofs.AnalysisUnit.Refusals
import SchemeTyping.Proofs.Text.Newline
import SchemeTyping.Proofs.Text.Utf8

/-! What a file is read as: the characters that its octets encode, with one newline convention. The name
of the file is all that tells apart what two files with the same lines yield. -/
namespace SchemeTyping

namespace AnalysisUnit
variable {tree : FileTree} {directory : List String} {path : Path} {content : List UInt8}
  {text : List Char}

/-- The unit as it is read from another source. -/
def readFrom (unit : AnalysisUnit) (source : String) : AnalysisUnit := { unit with source }

/-- The fault as it is found in another source, on the same line and in the same column. -/
def LoadFault.readFrom (fault : LoadFault) (source : String) : LoadFault :=
  match fault with
  | .unexpected got span => .unexpected got { span with file := source }
  | .numeralTooLong => .numeralTooLong
  | .unbound fault span => .unbound fault { span with file := source }

def FileFault.readFrom (fault : FileFault) (source : String) : FileFault :=
  match fault with
  | .malformed fault => .malformed (fault.readFrom source)
  | fault => fault

theorem assemble_readFrom (declarations : List Declaration) (text : List Char) (source other : String) :
    (assemble declarations text other).result = ((assemble declarations text source).result.map
      (·.readFrom other)).mapError (·.readFrom other) := by
  unfold assemble
  split
  · rfl
  · split
    · rfl
    · rfl

/-- A source is but a name: from another one, the same unit or the same fault is read. -/
theorem load_readFrom (text : List Char) (source other : String) : (load text other).result =
    ((load text source).result.map (·.readFrom other)).mapError (·.readFrom other) := by
  unfold load AnalysisUnit.declarations
  cases parse text with
  | error fault => cases fault <;> rfl
  | ok declarations => exact assemble_readFrom declarations text source other

/-- Text is loaded with its line ends unified. -/
theorem loadOctets_encode (text : List Char) (source : String) :
    loadOctets (Text.Utf8.encode text) source =
      ⟨(load (Text.unifyNewlines text) source).journal,
        (load (Text.unifyNewlines text) source).result.mapError .malformed⟩ := by
  simp only [loadOctets, Text.Utf8.decode_encode]

theorem loadOctets_readFrom {other : List Char} (source target : String)
    (same : Text.unifyNewlines text = Text.unifyNewlines other) :
    (loadOctets (Text.Utf8.encode other) target).result =
      ((loadOctets (Text.Utf8.encode text) source).result.map (·.readFrom target)).mapError
        (·.readFrom target) := by
  simp only [loadOctets_encode, ← same]
  rw [load_readFrom _ source target]
  cases (load (Text.unifyNewlines text) source).result <;> rfl

/-- How many of the first octets are the longest beginning that is text. -/
structure LongestText (content : List UInt8) (size : Nat) : Prop where
  within : size ≤ content.length
  isText : Text.Utf8.IsText (content.take size)
  longest : ∀ other, other ≤ content.length → Text.Utf8.IsText (content.take other) → other ≤ size

/-- Octets that are no text are refused at the end of their longest beginning that is. -/
theorem loadOctets_of_not_isText (source : String) (foreign : ¬ Text.Utf8.IsText content) :
    ∃ fault, loadOctets content source = ⟨[], .error (.undecodable fault)⟩ ∧
      LongestText content fault.offset := by
  unfold loadOctets
  split
  · next fault failed =>
    obtain ⟨text, behind, parts, position, longest⟩ := Text.Utf8.longest_before_fault failed
    rw [Nat.zero_add] at position
    refine ⟨fault, rfl, ?_, ?_, ?_⟩
    · rw [parts, position, List.length_append]
      exact Nat.le_add_right _ _
    · rw [parts, position, List.take_left]
      exact ⟨text, rfl⟩
    · rintro size within ⟨other, taken⟩
      have shorter := longest other (content.drop size) (by rw [← taken, List.take_append_drop])
      rwa [← taken, List.length_take_of_le within, ← position] at shorter
  · next text decoded => exact absurd ⟨text, Text.Utf8.decodeFrom_eq_ok.mp decoded⟩ foreign

theorem loadFile_of_read (clean : '\x00' ∉ path.toText.toList)
    (read : tree.read directory path = .ok content) :
    loadFile tree directory path = loadOctets content path.toText := by
  rw [loadFile, if_neg clean, read]

/-- A file that can be read is loaded as its text is, with every carriage return before a line feed
dropped and the remaining ones as line feeds. If it is no text, the octet is told that stands behind the
longest beginning that is. Files that differ only in how their lines end yield the same unit or the same
fault, but for the name of the file. -/
theorem loadFile_as_text (clean : '\x00' ∉ path.toText.toList)
    (read : tree.read directory path = .ok content) :
    (∀ text, content = Text.Utf8.encode text →
      (loadFile tree directory path).journal =
          (load (Text.feedReturns (Text.joinReturns text)) path.toText).journal ∧
        (loadFile tree directory path).result =
          (load (Text.feedReturns (Text.joinReturns text)) path.toText).result.mapError .malformed) ∧
      (¬ Text.Utf8.IsText content → ∃ fault reason size,
        (loadFile tree directory path).result = .error fault ∧
        fault.diagnostic? path.toText = some ⟨.file, "unit is not valid UTF-8: " ++ reason ++ " at byte " ++
          toString size, .unreadableUnit, { file := path.toText }, "CTSL units must be UTF-8 text"⟩ ∧
        LongestText content size) ∧
      ∀ otherTree otherDirectory other otherContent text otherText, '\x00' ∉ other.toText.toList →
        otherTree.read otherDirectory other = .ok otherContent →
        content = Text.Utf8.encode text → otherContent = Text.Utf8.encode otherText →
        Text.feedReturns (Text.joinReturns text) = Text.feedReturns (Text.joinReturns otherText) →
        (loadFile otherTree otherDirectory other).result = ((loadFile tree directory path).result.map
          (·.readFrom other.toText)).mapError (·.readFrom other.toText) := by
  rw [loadFile_of_read clean read]
  refine ⟨?_, ?_, ?_⟩
  · rintro text rfl
    rw [loadOctets_encode, Text.unifyNewlines_eq]
    exact ⟨rfl, rfl⟩
  · intro foreign
    obtain ⟨fault, refused, longest⟩ := loadOctets_of_not_isText path.toText foreign
    exact ⟨.undecodable fault, fault.reason.message, fault.offset, by rw [refused], rfl, longest⟩
  · rintro otherTree otherDirectory other _ text otherText otherClean otherRead rfl rfl same
    rw [loadFile_of_read otherClean otherRead]
    rw [← Text.unifyNewlines_eq, ← Text.unifyNewlines_eq] at same
    exact loadOctets_readFrom path.toText other.toText same

/-- The tree of one file below the root, at `/u.ctsl`. -/
def alone (content : List UInt8) : FileTree := FileTree.bare.put ["u.ctsl"] (.file content)

/-- A remark with some line end, and behind it a character with which no item begins. -/
def remark (lineEnd : List Char) : List Char := "# A".toList ++ lineEnd ++ ['?']

/-- A lone carriage return ends a remark, just as one with a line feed does; and octets that stop being text
are refused where they do. -/
theorem loadFile_as_text_remark :
    (loadFile (alone (Text.Utf8.encode (remark ['\r']))) [] (.fromRoot ["u.ctsl"])).result.map source =
        .error (.malformed (.unexpected ['?'] { file := "/u.ctsl", line := 2, column := 1 })) ∧
      (loadFile (alone (Text.Utf8.encode (remark ['\r', '\n']))) [] (.fromRoot ["u.ctsl"])).result =
        ((loadFile (alone (Text.Utf8.encode (remark ['\r']))) [] (.fromRoot ["u.ctsl"])).result.map
          (·.readFrom "/u.ctsl")).mapError (·.readFrom "/u.ctsl") ∧
      ∃ fault size, (loadFile (alone [0x41, 0xC3, 0x28]) [] (.fromRoot ["u.ctsl"])).result = .error fault ∧
        LongestText [0x41, 0xC3, 0x28] size := by
  have clean : '\x00' ∉ (Path.fromRoot ["u.ctsl"]).toText.toList := by decide +kernel
  have name : (Path.fromRoot ["u.ctsl"]).toText = "/u.ctsl" := by decide +kernel
  have read : ∀ content, (alone content).read [] (.fromRoot ["u.ctsl"]) = .ok content := fun _ => rfl
  obtain ⟨loaded, _, alike⟩ := loadFile_as_text clean (read (Text.Utf8.encode (remark ['\r'])))
  have same := alike _ _ _ _ (remark ['\r']) (remark ['\r', '\n']) clean (read _) rfl rfl (by decide)
  rw [name] at same
  refine ⟨?_, same, ?_⟩
  · rw [(loaded _ rfl).2, name]
    decide +kernel
  · have foreign : ¬ Text.Utf8.IsText [0x41, 0xC3, 0x28] := by
      rintro ⟨text, encoded⟩
      have failed : (Text.Utf8.decode [0x41, 0xC3, 0x28]).toOption = none := by decide +kernel
      rw [Text.Utf8.decode, Text.Utf8.decodeFrom_eq_ok.mpr encoded] at failed
      cases failed
    obtain ⟨fault, _, size, refused, _, longest⟩ := (loadFile_as_text clean (read _)).2.1 foreign
    exact ⟨fault, size, refused, longest⟩

end AnalysisUnit
end SchemeTyping
