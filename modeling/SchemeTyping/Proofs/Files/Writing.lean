import SchemeTyping.Proofs.Files.Walking

/-! Writing a file below directories that may be missing: they are made, the file is put in its place, and
all else stays. -/
namespace SchemeTyping.FileTree
variable {tree after : FileTree} {place way : List String} {content : List UInt8}

theorem node?_put (place other : List String) (node : Node) :
    (tree.put place node).node? other = if other = place then some node else tree.node? other :=
  Table.find?_put tree.nodes place other node

/-- One tree is another in which the directories down to a place have been made. -/
def Ensured (tree after : FileTree) (place : List String) : Prop :=
  ∀ way, after.node? way = if way <+: place then some .directory else tree.node? way

theorem Ensured.trans {middle : FileTree} (first : tree.Ensured middle way)
    (second : middle.Ensured after place) (onWay : way <+: place) : tree.Ensured after place := by
  intro other
  rw [second other]
  split
  · rfl
  · next off => rw [first other, if_neg fun above => off (above.trans onWay)]

/-- The way into a directory that has been made is paved. -/
theorem Ensured.paved {last : String} (ensured : tree.Ensured after front) :
    after.Paved (front ++ [last]) := by
  intro way onWay short
  rw [ensured way, if_pos ((List.prefix_concat_iff.mp onWay).resolve_left short)]

theorem not_concat_prefix {last : String} : ¬ front ++ [last] <+: front := by
  intro longer
  have lengths := longer.length_le
  rw [List.length_append, List.length_singleton] at lengths
  omega

/-- What is made above a place leaves the place itself alone. -/
theorem Ensured.below {last : String} (ensured : tree.Ensured after front) :
    after.node? (front ++ [last]) = tree.node? (front ++ [last]) := by
  rw [ensured, if_neg not_concat_prefix]

/-- On a paved way one attempt at a directory is enough, whether or not it was there before. -/
theorem attempt_of_paved (usable : Usable place) (paved : tree.Paved place)
    (free : tree.node? place = none ∨ tree.node? place = some .directory) :
    (∃ after, tree.makeDirectory (.fromRoot place) = .ok after ∧ tree.Ensured after place) ∨
    ∃ fault, tree.makeDirectory (.fromRoot place) = .error fault ∧ fault.reason = .existing ∧
      tree.tolerate fault = (tree, none) ∧ tree.Ensured tree place := by
  have reached := reach_of_paved usable paved
  have kept (own : tree.node? place = some .directory) : tree.Ensured tree place := by
    intro way
    split
    · next onWay =>
      by_cases whole : way = place
      · rw [whole, own]
      · exact paved way onWay whole
    · rfl
  rcases free with nothing | directory
  · refine .inl ⟨tree.put place .directory, by simp only [makeDirectory, reached, nothing], fun way => ?_⟩
    rw [node?_put]
    by_cases whole : way = place
    · rw [if_pos whole, whole, if_pos List.prefix_rfl]
    · rw [if_neg whole]
      split
      · next onWay => exact paved way onWay whole
      · rfl
  · refine .inr ⟨⟨.existing, .fromRoot place⟩, by simp only [makeDirectory, reached, directory], rfl, ?_,
      kept directory⟩
    have there : tree.isDirectory [] (.fromRoot place) = true := by
      simp only [isDirectory, find, reached, directory]
    simp only [tolerate, there, if_true]

/-- All directories down to a place are made if nothing else stands there. -/
theorem ensureUpward_of_clear {above : List String} (root : tree.node? [] = some .directory)
    (usable : Usable above.reverse) (clear : ∀ way, way <+: above.reverse →
      tree.node? way = none ∨ tree.node? way = some .directory) :
    ∃ after, tree.ensureUpward above = (after, none) ∧ tree.Ensured after above.reverse := by
  induction above with
  | nil =>
    refine ⟨tree, rfl, fun way => ?_⟩
    split
    · next onWay => rw [List.prefix_nil.mp onWay, root]
    · rfl
  | cons last above ih =>
    rw [List.reverse_cons] at usable clear ⊢
    have upper : above.reverse <+: above.reverse ++ [last] := List.prefix_append _ _
    have free := clear _ List.prefix_rfl
    by_cases paved : tree.Paved (above.reverse ++ [last])
    · rcases attempt_of_paved usable paved free with
        ⟨after, made, ensured⟩ | ⟨fault, there, reason, tolerated, ensured⟩
      · exact ⟨after, by simp only [ensureUpward, List.reverse_cons, made], ensured⟩
      · refine ⟨tree, ?_, ensured⟩
        simp only [ensureUpward, List.reverse_cons, there, reason, reduceCtorEq, if_false, tolerated]
    · have missing : tree.makeDirectory (.fromRoot (above.reverse ++ [last])) =
          .error ⟨.missing, .fromRoot (above.reverse ++ [last])⟩ := by
        simp only [makeDirectory, reach_of_gap usable (fun way onWay _ => clear way onWay) paved]
      obtain ⟨middle, upwards, made⟩ :=
        ih (usable.mono upper) fun way onWay => clear way (onWay.trans upper)
      have stillFree := made.below.symm ▸ free
      rcases attempt_of_paved usable made.paved stillFree with
        ⟨after, settled, ensured⟩ | ⟨fault, there, _, tolerated, ensured⟩
      · refine ⟨after, ?_, made.trans ensured upper⟩
        simp only [ensureUpward, List.reverse_cons, missing, if_true, upwards, settled]
      · refine ⟨middle, ?_, made.trans ensured upper⟩
        simp only [ensureUpward, List.reverse_cons, missing, if_true, upwards, there, tolerated]

/-- A file can be written at a place below the root: the names and the whole path are short enough, the
way there is clear, and no directory stands at the place itself. -/
structure Writable (tree : FileTree) (place : List String) : Prop where
  below : place ≠ []
  names : ∀ part ∈ place, part.utf8ByteSize ≤ nameLimit
  short : (Path.fromRoot place).toText.utf8ByteSize ≤ pathLimit
  clear : tree.Clear place
  free : tree.node? place ≠ some .directory

instance (tree : FileTree) (place : List String) : Decidable (tree.Writable place) :=
  decidable_of_iff (place ≠ [] ∧ (∀ part ∈ place, part.utf8ByteSize ≤ nameLimit) ∧
      (Path.fromRoot place).toText.utf8ByteSize ≤ pathLimit ∧ tree.Clear place ∧
      tree.node? place ≠ some .directory)
    ⟨fun ⟨below, names, short, clear, free⟩ => ⟨below, names, short, clear, free⟩,
      fun writable => ⟨writable.below, writable.names, writable.short, writable.clear, writable.free⟩⟩

theorem Writable.usable (writable : tree.Writable place) (plain : ".." ∉ place) : Usable place :=
  ⟨plain, writable.names, writable.short⟩

/-- The root of a tree is a directory if something else can be written in the tree. -/
theorem Writable.root (writable : tree.Writable place) (there : tree.node? [] ≠ none) :
    tree.node? [] = some .directory :=
  (writable.clear [] List.nil_prefix (Ne.symm writable.below)).resolve_left there

/-- What stands at a place after something was written there. A sink drops it. -/
def written (before : Option Node) (content : List UInt8) : Node :=
  if before = some .sink then .sink else .file content

/-- One tree is another in which a file was written at a place, below directories made for it. -/
structure Wrote (tree : FileTree) (place : List String) (content : List UInt8) (after : FileTree) :
    Prop where
  target : after.node? place = some (written (tree.node? place) content)
  paved : after.Paved place
  others : ∀ way, ¬ way <+: place → after.node? way = tree.node? way

theorem wrote_put (paved : tree.Paved place) (dry : tree.node? place ≠ some .sink) :
    tree.Wrote place content (tree.put place (.file content)) where
  target := by rw [node?_put, if_pos rfl, written, if_neg dry]
  paved way onWay short := by rw [node?_put, if_neg short, paved way onWay short]
  others way off := by
    rw [node?_put, if_neg]
    rintro rfl
    exact off List.prefix_rfl

theorem wrote_sink (paved : tree.Paved place) (sink : tree.node? place = some .sink) :
    tree.Wrote place content tree where
  target := by rw [sink, written, if_pos rfl]
  paved := paved
  others _ _ := rfl

/-- Where the way is paved and no directory stands, writing succeeds. -/
theorem write_of_paved (content : List UInt8) (usable : Usable place) (paved : tree.Paved place)
    (free : tree.node? place ≠ some .directory) :
    ∃ after, tree.write (.fromRoot place) content = .ok after ∧ tree.Wrote place content after := by
  have reached := reach_of_paved usable paved
  cases stands : tree.node? place with
  | none =>
    refine ⟨_, ?_, wrote_put paved (by simp [stands])⟩
    simp only [write, reached, stands]
  | some node =>
    cases node with
    | directory => exact absurd stands free
    | file before =>
      refine ⟨_, ?_, wrote_put paved (by simp [stands])⟩
      simp only [write, reached, stands]
    | sink =>
      refine ⟨_, ?_, wrote_sink paved stands⟩
      simp only [write, reached, stands]

/-- The directories above a writable place can be made, and then a file can be written there. -/
theorem write_of_writable (content : List UInt8) (root : tree.node? [] = some .directory)
    (plain : ".." ∉ place) (writable : tree.Writable place) : ∃ middle after,
      tree.ensureDirectory (Path.fromRoot place).parent = (middle, none) ∧
      middle.write (.fromRoot place) content = .ok after ∧ tree.Wrote place content after := by
  obtain ⟨front, last, rfl⟩ : ∃ front last, place = front ++ [last] :=
    ⟨_, _, (List.dropLast_concat_getLast writable.below).symm⟩
  have usable := writable.usable plain
  have upper : front <+: front ++ [last] := List.prefix_append _ _
  have parent : (Path.fromRoot (front ++ [last])).parent = Path.fromRoot front := by
    simp [Path.parent, Path.fromRoot]
  obtain ⟨middle, made, ensured⟩ : ∃ middle, tree.ensureUpward front.reverse = (middle, none) ∧
      tree.Ensured middle front.reverse.reverse :=
    ensureUpward_of_clear root (by simpa using usable.mono upper) fun way onWay => by
      rw [List.reverse_reverse] at onWay
      refine writable.clear way (onWay.trans upper) fun same => ?_
      exact not_concat_prefix (same ▸ onWay)
  rw [List.reverse_reverse] at ensured
  obtain ⟨after, wrote, done⟩ : ∃ after, middle.write (.fromRoot (front ++ [last])) content = .ok after ∧
      middle.Wrote (front ++ [last]) content after :=
    write_of_paved content usable ensured.paved (ensured.below.symm ▸ writable.free)
  refine ⟨middle, after, by rw [parent]; exact made, wrote, ?_, done.paved, fun way off => ?_⟩
  · rw [done.target, ensured.below]
  · rw [done.others way off, ensured, if_neg fun onWay => off (onWay.trans upper)]

/-- What stood in a tree stays when a file is written elsewhere. -/
theorem Wrote.keeps (wrote : tree.Wrote place content after) (writable : tree.Writable place)
    {node : Node} (stood : tree.node? way = some node) (other : way ≠ place) :
    after.node? way = some node := by
  by_cases onWay : way <+: place
  · rcases writable.clear way onWay other with nothing | directory
    · rw [nothing] at stood
      cases stood
    · rw [wrote.paved way onWay other, ← directory, stood]
  · rw [wrote.others way onWay, stood]

/-- Writing to a place once more replaces what was written. -/
theorem Wrote.again {middle : FileTree} {earlier : List UInt8} (first : tree.Wrote place earlier middle)
    (second : middle.Wrote place content after) : tree.Wrote place content after where
  target := by
    rw [second.target, first.target]
    by_cases sink : tree.node? place = some .sink
    · simp [written, sink]
    · simp [written, sink]
  paved := second.paved
  others way off := (second.others way off).trans (first.others way off)

theorem Wrote.free (wrote : tree.Wrote place content after) : after.node? place ≠ some .directory := by
  rw [wrote.target, written]
  split
  · simp
  · simp

/-- A place stays writable when a file is written elsewhere, unless one of the two would stand above the
other. -/
theorem Writable.elsewhere {other : List String} (writable : tree.Writable other)
    (wrote : tree.Wrote place content after) (below : ¬ place <+: other) (above : ¬ other <+: place) :
    after.Writable other where
  below := writable.below
  names := writable.names
  short := writable.short
  clear way onWay short := by
    by_cases shared : way <+: place
    · exact .inr (wrote.paved way shared fun same => below (same ▸ onWay))
    · rw [wrote.others way shared]
      exact writable.clear way onWay short
  free := by
    rw [wrote.others other above]
    exact writable.free

/-- One tree is another with more directories in it. -/
structure Grown (tree after : FileTree) : Prop where
  kept : ∀ way node, tree.node? way = some node → after.node? way = some node
  made : ∀ way, tree.node? way = none → after.node? way = none ∨ after.node? way = some .directory

theorem Grown.refl (tree : FileTree) : tree.Grown tree where
  kept _ _ stood := stood
  made _ nothing := .inl nothing

theorem Grown.trans {middle : FileTree} (first : tree.Grown middle) (second : middle.Grown after) :
    tree.Grown after where
  kept way node stood := second.kept way node (first.kept way node stood)
  made way nothing := by
    rcases first.made way nothing with still | directory
    · exact second.made way still
    · exact .inr (second.kept way .directory directory)

theorem grown_put (nothing : tree.node? place = none) : tree.Grown (tree.put place .directory) where
  kept way node stood := by
    rw [node?_put, if_neg, stood]
    rintro rfl
    rw [nothing] at stood
    cases stood
  made way free := by
    rw [node?_put]
    split
    · exact .inr rfl
    · exact .inl free

theorem grown_of_makeDirectory {path : Path} (made : tree.makeDirectory path = .ok after) :
    tree.Grown after := by
  unfold makeDirectory at made
  split at made
  · cases made
  · split at made
    · cases made
    · next nothing =>
      rw [← Except.ok.inj made]
      exact grown_put nothing

/-- Making the directories above a place takes nothing away. -/
theorem grown_ensureUpward (tree : FileTree) (above : List String) : tree.Grown (tree.ensureUpward above).1 := by
  induction above with
  | nil => exact .refl tree
  | cons last above ih =>
    unfold ensureUpward
    simp only
    split
    · next made => exact grown_of_makeDirectory made
    · split
      · split
        · next upwards =>
          rw [upwards] at ih
          exact ih
        · next upwards =>
          rw [upwards] at ih
          split
          · next made => exact ih.trans (grown_of_makeDirectory made)
          · exact ih
      · exact .refl tree

/-- A place is writable if a file can be written there below directories made for it. -/
theorem writable_of_write {middle : FileTree} (root : tree.node? [] = some .directory) (plain : ".." ∉ place)
    (ensured : tree.ensureDirectory (Path.fromRoot place).parent = (middle, none))
    (wrote : middle.write (.fromRoot place) content = .ok after) : tree.Writable place := by
  have grown : tree.Grown middle := by
    have upwards := grown_ensureUpward tree (Path.fromRoot place).parent.parts.reverse
    rwa [← ensureDirectory, ensured] at upwards
  unfold write at wrote
  split at wrote
  · cases wrote
  · next stop reached =>
    unfold reach at reached
    split at reached
    · cases reached
    · next short =>
      have walked : middle.walk [] place = .ok stop := reached
      obtain rfl : stop = place := stop_of_walk plain walked
      obtain ⟨names, paved⟩ := paved_of_walk plain walked
      have free : middle.node? stop ≠ some .directory := by
        intro directory
        simp only [directory] at wrote
        cases wrote
      refine ⟨?_, names, Nat.not_lt.mp short, fun way onWay proper => ?_, ?_⟩
      · rintro rfl
        exact free (grown.kept [] _ root)
      · cases stood : tree.node? way with
        | none => exact .inl rfl
        | some node =>
          right
          rw [← grown.kept way node stood]
          simpa using paved way onWay proper
      · exact fun directory => free (grown.kept stop _ directory)

/-- Exactly the writable places can be written at, whatever is written. -/
theorem writable_iff (root : tree.node? [] = some .directory) (plain : ".." ∉ place) :
    tree.Writable place ↔ ∃ middle after,
      tree.ensureDirectory (Path.fromRoot place).parent = (middle, none) ∧
      middle.write (.fromRoot place) content = .ok after := by
  constructor
  · intro writable
    obtain ⟨middle, after, ensured, wrote, _⟩ := write_of_writable content root plain writable
    exact ⟨middle, after, ensured, wrote⟩
  · rintro ⟨middle, after, ensured, wrote⟩
    exact writable_of_write root plain ensured wrote

variable {text : String} {target : Option (List String)}

/-- A text has been received in a file, or outside the file tree. -/
inductive Received (tree : FileTree) (text : String) : Option (List String) → FileTree → Prop where
  | outside : Received tree text none tree
  | inside {place : List String} {after : FileTree}
      (wrote : tree.Wrote place text.toUTF8.data.toList after) : Received tree text (some place) after

/-- What stood in a tree stays when a text is received elsewhere. -/
theorem Received.keeps {node : Node} (received : tree.Received text target after)
    (writable : ∀ place, target = some place → tree.Writable place)
    (stood : tree.node? way = some node) (other : target ≠ some way) : after.node? way = some node := by
  cases received with
  | outside => exact stood
  | inside wrote => exact wrote.keeps (writable _ rfl) stood fun same => other (same ▸ rfl)

/-- Elsewhere no more than directories are made. -/
theorem Received.untouched (received : tree.Received text target after)
    (free : after.node? way ≠ some .directory) (other : target ≠ some way) :
    after.node? way = tree.node? way := by
  cases received with
  | outside => rfl
  | inside wrote =>
    refine wrote.others way fun onWay => free ?_
    exact wrote.paved way onWay fun same => other (same ▸ rfl)

/-- What a path finds in a tree it still finds when a text is received elsewhere. -/
theorem Received.finds {directory own : List String} {node : Node}
    (received : tree.Received text target after)
    (writable : ∀ place, target = some place → tree.Writable place) (plain : ".." ∉ own)
    (found : tree.find directory (.fromRoot own) = .ok node) (other : target ≠ some own) :
    after.find directory (.fromRoot own) = .ok node := by
  obtain ⟨reached, stood⟩ := node?_of_find plain found
  refine find_of_kept reached (fun way above => ?_) (received.keeps writable stood other)
  exact received.keeps writable above fun same => (writable way same).free above

/-- A file that has received a text holds it. -/
theorem Received.holds (received : tree.Received text (some place) after) :
    after.node? place = some (written (tree.node? place) text.toUTF8.data.toList) := by
  cases received with
  | inside wrote => exact wrote.target

end SchemeTyping.FileTree
