import SchemeTyping.Proofs.Command.Endings

/-! Runs without a unit. The unit is loaded before anything else is done, so a run that does not get one
leaves the file tree as it was and standard output empty, whatever else it was asked to write. -/
namespace SchemeTyping.Command
open AnalysisUnit
variable {around : Surroundings} {tree : FileTree} {effects : Effects} {task : Task} {word : String}
  {path : Path} {ending : Ending}

/-- Tasks on the unit that a word names, whatever they deliver and wherever to. -/
inductive Task.On (word : String) : Task → Prop where
  | extract (delivery : Delivery) : On word (.extract word delivery)
  | check : On word (.check word)
  | hierarchy (named : word ≠ "") : On word (.hierarchy (some word))

/-- The unit that a word names is missing or faulty, and a diagnostic says so. No path with a name that is
too long is looked at. -/
inductive Reported (around : Surroundings) (tree : FileTree) (word : String) : Prop where
  | missing {path : Path} {reason : FileTree.Reason} (resolved : around.resolve word = .ok path)
      (absent : tree.find around.directory path = .error reason) (short : reason ≠ .tooLong)
  | refused {path : Path} {node : Node} {fault : FileFault} {diagnostic : Diagnostic}
      (resolved : around.resolve word = .ok path)
      (there : tree.find around.directory path = .ok node)
      (refused : (loadFile tree around.directory path).result = .error fault)
      (told : fault.diagnostic? path.toText = some diagnostic)

namespace Step
variable {Value Next : Type} {step : Step Value} {next : Effects → Value → Step Next}

/-- A step ends the run and has at most added to the journal. -/
structure Quits (before : Effects) (ending : Ending) (step : Step Value) : Prop
    extends Silent before step where
  ended : step.2 = .error ending

theorem Quits.andThen (quits : step.Quits effects ending) : (step.andThen next).Quits effects ending := by
  obtain ⟨after, _⟩ := step
  obtain ⟨⟨tree, output⟩, rfl⟩ := quits
  exact ⟨⟨tree, output⟩, rfl⟩

end Step

namespace Surroundings

/-- Without anything at its path a unit is not found. -/
theorem locate_of_absent {reason : FileTree.Reason} (resolved : around.resolve word = .ok path)
    (absent : effects.tree.find around.directory path = .error reason) (short : reason ≠ .tooLong) :
    (around.locate effects word).2 = .error (.exit failed) := by
  simp only [locate, resolved, absent]

theorem locate_of_tooLong (resolved : around.resolve word = .ok path)
    (long : effects.tree.find around.directory path = .error .tooLong) :
    (around.locate effects word).2 = .error (.crash (.unusable ⟨.tooLong, path⟩)) := by
  simp only [locate, resolved, long, Effects.crash]

theorem locate_of_found {node : Node} (resolved : around.resolve word = .ok path)
    (found : effects.tree.find around.directory path = .ok node) :
    around.locate effects word = (effects, .ok path) := by
  simp only [locate, resolved, found]

/-- A unit whose absence is reported ends the run with the code for failures. -/
theorem load_of_reported (reported : Reported around effects.tree word) :
    (around.load effects word).2 = .error (.exit failed) := by
  cases reported with
  | missing resolved absent short => exact Step.andThen_of_error (locate_of_absent resolved absent short)
  | refused resolved found refused told =>
    rw [load, locate_of_found resolved found]
    simp only [Step.andThen, loadFrom, refused, told]

/-- A word that leads to no unit breaks the run off if that is not reported. -/
theorem load_of_unreported (unloaded : ∀ path unit, around.resolve word = .ok path →
      (loadFile effects.tree around.directory path).result ≠ .ok unit)
    (unreported : ¬ Reported around effects.tree word) :
    ∃ crash, (around.load effects word).2 = .error (.crash crash) := by
  cases resolved : around.resolve word with
  | error crash =>
    have located : around.locate effects word = effects.crash crash := by
      simp only [locate, resolved]
    rw [load, located]
    exact ⟨crash, rfl⟩
  | ok path =>
    cases found : effects.tree.find around.directory path with
    | error reason =>
      have long : reason = .tooLong := by
        by_contra short
        exact unreported (.missing resolved found short)
      exact ⟨_, Step.andThen_of_error (locate_of_tooLong resolved (long ▸ found))⟩
    | ok node =>
      rw [load, locate_of_found resolved found]
      cases read : (loadFile effects.tree around.directory path).result with
      | ok unit => exact absurd read (unloaded path unit resolved)
      | error fault =>
        cases told : fault.diagnostic? path.toText with
        | none =>
          simp only [Step.andThen, loadFrom, read, told]
          exact ⟨_, rfl⟩
        | some diagnostic => exact absurd (.refused resolved found read told) unreported

/-- A task ends where loading its unit does. -/
theorem perform_of_ended (on : task.On word) (ended : (around.load effects word).2 = .error ending) :
    (around.perform effects task).Quits effects ending := by
  have quits : (around.load effects word).Quits effects ending := ⟨silent_load, ended⟩
  cases on with
  | extract delivery => exact quits.andThen
  | check => exact quits.andThen
  | hierarchy named =>
    rw [perform, hierarchyOf_some named]
    exact quits.andThen.andThen

end Surroundings

/-- A run ends where loading the unit does, and leaves all as it was. -/
theorem run_of_ended {words : List String} {verbosity : Nat}
    (asked : Request.ofWords words = .ok ⟨verbosity, some task⟩) (on : task.On word)
    (ended : (around.load { tree } word).2 = .error ending) :
    (run around tree words).tree = tree ∧ (run around tree words).output = "" ∧
      (run around tree words).ending = ending := by
  have quits := Surroundings.perform_of_ended on ended
  simp only [run, asked]
  exact ⟨quits.tree, quits.output, Step.ending_of_error quits.ended⟩

/-- A path with a name that is too long breaks a run off. -/
theorem ending_of_tooLong {words : List String} {verbosity : Nat}
    (asked : Request.ofWords words = .ok ⟨verbosity, some task⟩) (on : task.On word)
    (resolved : around.resolve word = .ok path)
    (long : tree.find around.directory path = .error .tooLong) :
    (run around tree words).ending = .crash (.unusable ⟨.tooLong, path⟩) := by
  have located : (around.locate { tree } word).2 = .error (.crash (.unusable ⟨.tooLong, path⟩)) :=
    Surroundings.locate_of_tooLong resolved long
  exact (run_of_ended asked on (Step.andThen_of_error located)).2.2

/-- A run that gets no unit leaves the file tree as it was and writes nothing to standard output, also where
it was to write a report or a ledger. It ends with the code for failures exactly if a diagnostic says what
is wrong with the unit. -/
theorem unchanged_without_unit {words : List String} {verbosity : Nat}
    (asked : Request.ofWords words = .ok ⟨verbosity, some task⟩) (on : task.On word)
    (unloaded : ∀ path unit, around.resolve word = .ok path →
      (loadFile tree around.directory path).result ≠ .ok unit) :
    (run around tree words).tree = tree ∧ (run around tree words).output = "" ∧
      ((run around tree words).ending = .exit failed ↔ Reported around tree word) := by
  by_cases reported : Reported around tree word
  · have ended : (around.load { tree } word).2 = .error (.exit failed) :=
      Surroundings.load_of_reported reported
    obtain ⟨same, silent, ending⟩ := run_of_ended asked on ended
    exact ⟨same, silent, iff_of_true ending reported⟩
  · obtain ⟨crash, ended⟩ : ∃ crash, (around.load { tree } word).2 = .error (.crash crash) :=
      Surroundings.load_of_unreported unloaded reported
    obtain ⟨same, silent, ending⟩ := run_of_ended asked on ended
    refine ⟨same, silent, iff_of_false (fun failure => ?_) reported⟩
    rw [ending] at failure
    cases failure

/-- A faulty unit stays as it is although its own file is to take the report, and no ledger is written. -/
theorem unchanged_without_unit_undecodable :
    let outcome := run fromRoot (singleFile [0xFF])
      ["extract", "u.ctsl", "-o", "u.ctsl", "--ledger", "ledger.json"]
    outcome.tree = singleFile [0xFF] ∧ outcome.output = "" ∧ outcome.ending = .exit failed := by
  have names := names_singleFile [0xFF]
  have asked : Request.ofWords ["extract", "u.ctsl", "-o", "u.ctsl", "--ledger", "ledger.json"] =
      .ok ⟨0, some (.extract "u.ctsl" { output := .file "u.ctsl", ledger := some "ledger.json" })⟩ := by
    decide +kernel
  have evaluated : ((loadOctets [0xFF] (Path.fromRoot ["u.ctsl"]).toText).result.mapError fun fault =>
      (fault.diagnostic? (Path.fromRoot ["u.ctsl"]).toText).isSome).map (fun _ => ()) = .error true := by
    decide +kernel
  obtain ⟨fault, refused, told⟩ := Outcome.mapError_eq_error.mp (Outcome.map_eq_error.mp evaluated)
  obtain ⟨diagnostic, told⟩ := Option.isSome_iff_exists.mp told
  rw [← loadFile_of_names names] at refused
  have unloaded : ∀ path unit, fromRoot.resolve "u.ctsl" = .ok path →
      (loadFile (singleFile [0xFF]) fromRoot.directory path).result ≠ .ok unit := by
    intro path unit resolved loaded
    rw [names.resolved] at resolved
    cases resolved
    rw [refused] at loaded
    cases loaded
  obtain ⟨same, silent, ending⟩ := unchanged_without_unit asked (.extract _) unloaded
  exact ⟨same, silent, ending.mpr (.refused names.resolved names.found refused told)⟩

/-- A text without the separator is one piece. -/
theorem pieces_of_not_mem {separator : Char} {text : List Char} (whole : separator ∉ text) :
    Text.pieces separator text = [text] := by
  induction text with
  | nil => rfl
  | cons char rest ih =>
    have other : char ≠ separator := fun same => whole (same ▸ List.mem_cons_self)
    rw [Text.pieces, if_neg other, ih fun member => whole (List.mem_cons_of_mem _ member)]
    rfl

/-- A text without a slash is a path of one part. -/
theorem ofText_of_single {chars : List Char} (single : '/' ∉ chars) (filled : chars ≠ [])
    (other : chars ≠ ['.']) : Path.ofText (String.ofList chars) = ⟨.working, [String.ofList chars]⟩ := by
  have start : chars.takeWhile (· == '/') = [] := by
    cases chars with
    | nil => rfl
    | cons char rest =>
      have first : char ≠ '/' := fun same => single (same ▸ List.mem_cons_self)
      simp [first]
  have full : String.ofList chars ≠ "" := fun empty => filled (by simpa using congrArg String.toList empty)
  have noDot : String.ofList chars ≠ "." := fun dot => other (by simpa using congrArg String.toList dot)
  simp [Path.ofText, start, pieces_of_not_mem single, full, noDot, Path.anchorOf]

/-- A name of so many letters. -/
def letters (count : Nat) : String := String.ofList (List.replicate count 'a')

theorem utf8ByteSize_letters (count : Nat) : (letters count).utf8ByteSize = count := by
  induction count with
  | zero => rfl
  | succ count ih =>
    have one : (String.singleton 'a').utf8ByteSize = 1 := by decide +kernel
    unfold letters at ih ⊢
    rw [List.replicate_succ, String.ofList_cons, String.utf8ByteSize_append, ih, one, Nat.add_comm]

theorem resolve_letters (count : Nat) :
    fromRoot.resolve (letters (count + 1)) = .ok (.fromRoot [letters (count + 1)]) := by
  have parsed : Path.ofText (letters (count + 1)) = ⟨.working, [letters (count + 1)]⟩ :=
    ofText_of_single (by simp) (by simp) (by simp [List.replicate_succ])
  have user : (Path.mk .working [letters (count + 1)]).user? = none := by
    simp [Path.user?, letters, List.replicate_succ]
  have clean : '\x00' ∉ (letters (count + 1)).toList := by simp [letters]
  have down : letters (count + 1) ≠ ".." := by
    intro dots
    have first := congrArg String.toList dots
    simp [letters, List.replicate_succ] at first
  simp [Surroundings.resolve, parsed, user, clean, down, Path.expandHome, Path.toText, Path.resolve,
    Path.collapse, Path.partsFrom, Path.isAbsolute, fromRoot]

/-- Nothing is found under a name that is too long. -/
theorem find_of_long {name : String} (long : FileTree.nameLimit < name.utf8ByteSize) :
    FileTree.bare.find [] (.fromRoot [name]) = .error .tooLong := by
  have walked : FileTree.bare.walk [] [name] = .error .tooLong := by
    have root : FileTree.bare.node? [] = some .directory := rfl
    rw [FileTree.walk, root]
    simp only [if_pos long]
  have reached : FileTree.bare.reach [] (.fromRoot [name]) = .error .tooLong := by
    unfold FileTree.reach
    split
    · rfl
    · exact walked
  simp only [FileTree.find, reached]

theorem Task.Reads.on (reads : task.Reads word) : task.On word := by
  cases reads with
  | check => exact .check
  | hierarchy named => exact .hierarchy named
  | extract _ _ _ => exact .extract _

/-- Not every run on a unit that is missing ends with the code for failures. -/
theorem not_failed_longName : ¬ ∀ around tree words verbosity task word path reason,
    Request.ofWords words = .ok ⟨verbosity, some task⟩ → task.On word →
      around.resolve word = .ok path → tree.find around.directory path = .error reason →
        (run around tree words).ending = .exit failed := by
  intro fails
  have resolved := resolve_letters FileTree.nameLimit
  have long : FileTree.bare.find [] (.fromRoot [letters (FileTree.nameLimit + 1)]) = .error .tooLong :=
    find_of_long ((utf8ByteSize_letters _).symm ▸ Nat.lt_succ_self _)
  have plain : (letters (FileTree.nameLimit + 1)).toList.head? ≠ some '-' := by
    simp [letters, List.replicate_succ]
  have named : letters (FileTree.nameLimit + 1) ≠ "" := by
    intro empty
    have none := congrArg String.toList empty
    simp [letters, List.replicate_succ] at none
  obtain ⟨task, asked, reads⟩ := asked_of_plain .check plain
  have on := (reads named).on
  have ending := fails fromRoot .bare _ 0 task _ _ _ asked on resolved long
  rw [ending_of_tooLong asked on resolved long] at ending
  cases ending

end SchemeTyping.Command
