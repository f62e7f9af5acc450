import SchemeTyping.Proofs.Command.Endings

/-! Options of an extraction. However they are combined, spelled and repeated behind the unit, the command
line is read as the delivery that they make up one after the other. -/
namespace SchemeTyping.Command
variable {known : List Switch} {word : String}

/-- Words that are plain wherever they stand before the separator: those that do not begin with a dash, and
the dash alone. -/
def Plain (word : String) : Prop := word.toList.head? ≠ some '-' ∨ word = "-"

theorem Plain.role (plain : Plain word) : Role.ofText known word = .ok .plain := by
  rcases plain with other | rfl
  · exact ofText_of_plain known other
  · have dash : "-".toList = ['-'] := by decide +kernel
    simp only [Role.ofText, dash]

theorem Plain.ne_separator (plain : Plain word) : word ≠ Word.separator := by
  rcases plain with other | rfl
  · rintro rfl
    exact other (by decide +kernel)
  · decide

/-- One choice of how an extraction is delivered. -/
inductive Choice where
  | format (form : Report.Format)
  | output (word : String)
  | ledger (word : String)
  | quiet

namespace Choice

def switch : Choice → Switch
  | .format _ => .format
  | .output _ => .output
  | .ledger _ => .ledger
  | .quiet => .quiet

def value? : Choice → Option String
  | .format form => some form.label
  | .output word => some word
  | .ledger word => some word
  | .quiet => none

/-- A delivery with a choice made in it. -/
def apply (delivery : Delivery) : Choice → Delivery
  | .format form => { delivery with format := some form }
  | .output word => { delivery with output := Destination.ofValue (some word) }
  | .ledger word => { delivery with ledger := some word }
  | .quiet => { delivery with quiet := true }

/-- The use of its switch makes a choice. -/
theorem take_use (choice : Choice) (reading : Reading) :
    reading.take (some .extract) ⟨choice.switch, choice.value?⟩ =
      .ok { reading with delivery := choice.apply reading.delivery } := by
  cases choice with
  | format form =>
    have labelled : Report.Format.ofLabel? form.label = some form := by
      cases form <;> decide +kernel
    simp only [Reading.take, switch, value?, labelled, apply]
  | output word => rfl
  | ledger word => rfl
  | quiet => rfl

end Choice

/-- A choice as it is made on the command line: by one of the names of its switch, with a plain value. -/
structure Spelled where
  choice : Choice
  name : String
  named : name ∈ choice.switch.names
  plain : ∀ value, choice.value? = some value → Plain value

namespace Spelled

def words (spelled : Spelled) : List String := spelled.name :: spelled.choice.value?.toList

/-- The words of a choice with the parts that they play for the command. -/
def parts (spelled : Spelled) : List Word :=
  ⟨spelled.name, .named spelled.choice.switch .nothing⟩ ::
    spelled.choice.value?.toList.map fun value => ⟨value, .plain⟩

def use (spelled : Spelled) : Use := ⟨spelled.choice.switch, spelled.choice.value?⟩

end Spelled

theorem classify_cons {role : Role} {rest : List String} (separate : word ≠ Word.separator)
    (read : Role.ofText known word = .ok role) :
    Word.classify known (word :: rest) = (Word.classify known rest).map (⟨word, role⟩ :: ·) := by
  rw [Word.classify, if_neg separate, read]

/-- Where every word plays a part, the words are kept. -/
theorem texts_of_classify {texts : List String}
    (read : ∀ text ∈ texts, text ≠ Word.separator ∧ ∃ role, Role.ofText known text = .ok role) :
    ∃ words, Word.classify known texts = .ok words ∧ words.map Word.text = texts := by
  induction texts with
  | nil => exact ⟨[], rfl, rfl⟩
  | cons text rest ih =>
    obtain ⟨separate, role, own⟩ := read text List.mem_cons_self
    obtain ⟨words, classified, kept⟩ := ih fun later member => read later (List.mem_cons_of_mem _ member)
    refine ⟨⟨text, role⟩ :: words, ?_, by rw [List.map_cons, kept]⟩
    rw [classify_cons separate own, classified]
    rfl

/-- The names of the switches for choices, which only the command knows. -/
theorem role_of_name {choice : Choice} {name : String} (named : name ∈ choice.switch.names) :
    name ≠ Word.separator ∧
      Role.ofText (Switch.known (some .extract)) name = .ok (.named choice.switch .nothing) ∧
      Role.ofText (Switch.known none) name = .ok .unknown := by
  have each : ∀ switch ∈ [Switch.format, .output, .ledger, .quiet], ∀ name ∈ switch.names,
      name ≠ Word.separator ∧
      Role.ofText (Switch.known (some .extract)) name = .ok (.named switch .nothing) ∧
      Role.ofText (Switch.known none) name = .ok .unknown := by
    decide +kernel
  refine each choice.switch ?_ name named
  cases choice <;> simp [Choice.switch]

namespace Spelled

/-- The words of a choice play parts also before the command is known. -/
theorem read_words (spelled : Spelled) : ∀ text ∈ spelled.words,
    text ≠ Word.separator ∧ ∃ role, Role.ofText (Switch.known none) text = .ok role := by
  obtain ⟨separate, _, unknown⟩ := role_of_name spelled.named
  intro text member
  rcases List.mem_cons.mp member with rfl | value
  · exact ⟨separate, _, unknown⟩
  · have plain := spelled.plain text (Option.mem_toList.mp value)
    exact ⟨plain.ne_separator, _, plain.role⟩

theorem classify_words (spelled : Spelled) (rest : List String) :
    Word.classify (Switch.known (some .extract)) (spelled.words ++ rest) =
      (Word.classify (Switch.known (some .extract)) rest).map (spelled.parts ++ ·) := by
  obtain ⟨separate, named, _⟩ := role_of_name spelled.named
  have own := spelled.plain
  simp only [words, parts, List.cons_append, classify_cons separate named]
  cases value : spelled.choice.value? with
  | none => rfl
  | some word =>
    have plain := own word value
    simp only [Option.toList_some, List.cons_append, List.nil_append, List.map_cons, List.map_nil,
      classify_cons plain.ne_separator plain.role]
    cases Word.classify (Switch.known (some .extract)) rest <;> rfl

/-- A switch that takes a value is used with the plain word behind it. -/
theorem items_valued {switch : Switch} {name value : String} (takes : switch.takesValue = true)
    (plain : Plain value) (rest : List Word) :
    Item.ofWords known (⟨name, .named switch .nothing⟩ :: ⟨value, .plain⟩ :: rest) =
      .uses [⟨switch, some value⟩] :: Item.ofWords known rest := by
  have valued : Use.valued switch value = ⟨switch, some value⟩ := by
    rw [Use.valued, if_neg plain.ne_separator]
  simp [Item.ofWords, Expansion.ofSwitch, Expansion.bare, takes, valued]

theorem items_parts (spelled : Spelled) (rest : List Word) :
    Item.ofWords known (spelled.parts ++ rest) = .uses [spelled.use] :: Item.ofWords known rest := by
  obtain ⟨choice, name, named, plain⟩ := spelled
  cases choice with
  | format form => exact items_valued rfl (plain _ rfl) rest
  | output word => exact items_valued rfl (plain _ rfl) rest
  | ledger word => exact items_valued rfl (plain _ rfl) rest
  | quiet => rfl

end Spelled

variable (options : List Spelled)

/-- The delivery that choices make up. A later one replaces an earlier one of its kind. -/
def deliveryOf (options : List Spelled) : Delivery :=
  (options.map Spelled.choice).foldl Choice.apply {}

theorem classify_options : Word.classify (Switch.known (some .extract)) (options.flatMap Spelled.words) =
    .ok (options.flatMap Spelled.parts) := by
  induction options with
  | nil => rfl
  | cons first rest ih =>
    rw [List.flatMap_cons, first.classify_words, ih]
    rfl

theorem items_options : Item.ofWords known (options.flatMap Spelled.parts) =
    options.map fun spelled => .uses [spelled.use] := by
  induction options with
  | nil => rfl
  | cons first rest ih => rw [List.flatMap_cons, first.items_parts, ih, List.map_cons]

/-- Choices are read one after the other. -/
theorem read_options (reading : Reading) :
    reading.read (some .extract) (options.map fun spelled => .uses [spelled.use]) =
      .ok { reading with
        delivery := (options.map Spelled.choice).foldl Choice.apply reading.delivery } := by
  induction options generalizing reading with
  | nil => rfl
  | cons first rest ih =>
    have taken : reading.takeAll (some .extract) [first.use] =
        .ok { reading with delivery := first.choice.apply reading.delivery } := by
      simp only [Reading.takeAll, Spelled.use, first.choice.take_use]
    rw [List.map_cons, Reading.read, taken]
    exact ih _

/-- The words behind the command are read as the unit and the delivery. -/
theorem read_extract (plain : Plain word) :
    Verb.extract.read (word :: options.flatMap Spelled.words) =
      .ok (.extract word (deliveryOf options), []) := by
  have classified : Word.classify (Switch.known (some .extract)) (word :: options.flatMap Spelled.words) =
      .ok (⟨word, .plain⟩ :: options.flatMap Spelled.parts) := by
    rw [classify_cons plain.ne_separator plain.role, classify_options]
    rfl
  have items : Item.ofWords (Switch.known (some .extract))
      (⟨word, .plain⟩ :: options.flatMap Spelled.parts) =
      .plain word :: options.map fun spelled => .uses [spelled.use] := by
    rw [Item.ofWords, items_options]
  have read : ({} : Reading).read (some .extract)
      (.plain word :: options.map fun spelled => .uses [spelled.use]) =
      .ok { unit := some word, delivery := deliveryOf options } := by
    have behind := read_options options { unit := some word }
    cases options with
    | nil => rfl
    | cons first rest => exact behind
  simp only [Verb.read, classified, items, read]
  rfl

/-- Every combination of options can be asked for, with the delivery that they make up. -/
theorem asked_of_options (plain : Plain word) :
    Request.ofWords ("extract" :: word :: options.flatMap Spelled.words) =
      .ok ⟨0, some (.extract word (deliveryOf options))⟩ := by
  have verb : Plain "extract" := .inl (by decide +kernel)
  obtain ⟨words, classified, kept⟩ : ∃ words,
      Word.classify (Switch.known none) (word :: options.flatMap Spelled.words) = .ok words ∧
      words.map Word.text = word :: options.flatMap Spelled.words := by
    refine texts_of_classify fun text member => ?_
    rcases List.mem_cons.mp member with rfl | option
    · exact ⟨plain.ne_separator, _, plain.role⟩
    · obtain ⟨spelled, _, own⟩ := List.mem_flatMap.mp option
      exact spelled.read_words text own
  have whole : Word.classify (Switch.known none) ("extract" :: word :: options.flatMap Spelled.words) =
      .ok (⟨"extract", .plain⟩ :: words) := by
    rw [classify_cons verb.ne_separator verb.role, classified]
    rfl
  have command : Verb.ofLabel? "extract" = some .extract := by decide +kernel
  simp [Request.ofWords, whole, Item.ofWords, Reading.read, command, kept, read_extract options plain,
    Request.settle]

end SchemeTyping.Command
