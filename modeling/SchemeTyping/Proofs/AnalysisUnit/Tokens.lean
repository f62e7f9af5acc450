import SchemeTyping.Proofs.AnalysisUnit.Spelling

/-! The spellings of single tokens. Each is a body of characters and the layout after it; where the body
ends is settled by the character that follows. -/
namespace SchemeTyping.AnalysisUnit
open Peg Grammar

namespace Token

/-- A token ends before what does not continue it. -/
def Ends : Token → Option Char → Prop
  | .keyword _, next => ∀ char ∈ next, Text.isWord char = false
  | .qualifier _, next => ∀ char ∈ next, continuesQualifier char = false
  | .identifier _, next => ∀ char ∈ next, continuesIdentifier char = false
  | .digits _, next => ∀ char ∈ next, Grammar.isDigit char = false
  | _, _ => True

/-- What may follow the layout after a token, which may be empty. -/
def Allows : Token → Option Char → Prop
  | .identifier _, next => ∀ char ∈ next, char ≠ '$' ∧ char ≠ '.'
  | .digits _, next => ∀ char ∈ next, Grammar.isDigit char = false
  | _, _ => True

theorem apart_of_ends {token : Token} {next : Option Char} (ends : token.Ends next)
    (runs : token.runsOn = true) : ∀ char ∈ next, continuesQualifier char = false := by
  intro char follows
  cases continues : continuesQualifier char with
  | false => rfl
  | true =>
    cases token with
    | keyword word =>
      have stop := ends char follows
      rw [isWord_of_continuesQualifier continues] at stop
      exact stop
    | qualifier name =>
      have stop := ends char follows
      rw [continues] at stop
      exact stop
    | identifier name =>
      have stop := ends char follows
      rw [continuesIdentifier_of_continuesQualifier continues] at stop
      exact stop
    | mark chars => cases runs
    | digits chars => cases runs
    | quoted text => cases runs

/-- The characters that begin layout end every token. -/
theorem ends_of_layout {token : Token} {ends : Prop} {char : Char} {gap : List Char}
    (layout : Layout ends (char :: gap)) : token.Ends (some char) := by
  have hidden : isVisible char = false := by
    cases visible : isVisible char with
    | false => rfl
    | true => exact absurd (opens_of_isVisible visible).clear layout.not_clear
  have silent : Text.isWord char = false := by
    cases layout with
    | blank white _ => exact isWord_of_isBlank white
    | comment _ _ => decide +kernel
    | last _ _ => decide +kernel
  cases token with
  | keyword word =>
    intro other same
    exact Option.some.inj same ▸ silent
  | qualifier name =>
    intro other same
    obtain rfl := Option.some.inj same
    cases continues : continuesQualifier char with
    | false => rfl
    | true =>
      rw [isWord_of_continuesQualifier continues] at silent
      exact silent
  | identifier name =>
    intro other same
    obtain rfl := Option.some.inj same
    cases continues : continuesIdentifier char with
    | false => rfl
    | true =>
      rw [isVisible_of_continuesIdentifier continues] at hidden
      exact hidden
  | digits chars =>
    intro other same
    obtain rfl := Option.some.inj same
    cases digit : Grammar.isDigit char with
    | false => rfl
    | true =>
      rw [isVisible_of_isDigit digit] at hidden
      exact hidden
  | mark chars => trivial
  | quoted text => trivial

/-- Without layout after it a token ends before what may follow, if it does not run on. -/
theorem ends_of_apart {token : Token} {next : Option Char}
    (apart : token.runsOn = true → ∀ char ∈ next, continuesQualifier char = false)
    (ready : Opens next) (allowed : token.Allows next) : token.Ends next := by
  cases token with
  | keyword word =>
    intro char follows
    cases word? : Text.isWord char with
    | false => rfl
    | true =>
      have stop := apart rfl char follows
      rw [ready.ascii char follows word?] at stop
      exact stop
  | qualifier name => exact apart rfl
  | identifier name =>
    intro char follows
    have stop := apart rfl char follows
    obtain ⟨dollar, point⟩ := allowed char follows
    obtain ⟨letter, digit⟩ := Bool.or_eq_false_iff.mp stop
    simp [continuesIdentifier, startsIdentifier, letter, digit, dollar, point]
  | digits chars => exact allowed
  | mark chars => trivial
  | quoted text => trivial

end Token

/-- A body that takes exactly the characters of a token spells the token, together with the layout after
it. -/
theorem spells_token {Value : Type} {body : Expr} (follow : Option Char → Prop)
    (token : Value → Token) (made : Nat → Value → List Tree)
    (takes_body : ∀ {start taken rest trees}, Takes body start taken rest trees ↔
      ∃ value, trees = made start value ∧ (token value).Valid ∧ taken = (token value).chars ∧
        (token value).Ends rest.head?)
    (allows : ∀ {value next}, follow next → (token value).Allows next) :
    Spells (.both body layout) (fun value trees => ∃ start, trees = made start value)
      (fun value => [⟨token value, none⟩]) follow where
  read takes := by
    rename_i start taken rest trees
    obtain ⟨front, gap, left, right, rfl, rfl, first, second⟩ := takes_both.mp takes
    obtain ⟨value, rfl, valid, rfl, ends⟩ := takes_body.mp first
    obtain ⟨rfl, gapped, clear⟩ := takes_layout.mp second
    have apart : (token value).runsOn = true → gap = [] →
        ∀ char ∈ rest.head?, continuesQualifier char = false := by
      rintro runs rfl
      exact Token.apart_of_ends ends runs
    have laid : Laid rest start [⟨token value, none⟩] ((token value).chars ++ gap ++ []) :=
      .next valid (by simp) gapped apart .done
    rw [List.append_nil] at laid
    exact ⟨value, ⟨start, List.append_nil _⟩, laid⟩
  write laid opens follows := by
    rename_i start taken rest value
    cases laid with
    | next valid placed gapped apart more =>
      cases more with
      | done =>
        rename_i gap
        have ends : (token value).Ends (gap ++ rest).head? := by
          cases gap with
          | nil => exact Token.ends_of_apart (fun runs => apart runs rfl) opens (allows follows)
          | cons char gap => exact Token.ends_of_layout gapped
        have first : Takes body start (token value).chars (gap ++ rest) (made start value) :=
          takes_body.mpr ⟨value, rfl, valid, rfl, ends⟩
        have second : Takes layout (start + (token value).chars.length) gap rest [] :=
          takes_layout.mpr ⟨rfl, gapped, opens.clear⟩
        rw [List.append_nil]
        exact ⟨made start value, takes_both.mpr ⟨_, gap, made start value, [], rfl,
          (List.append_nil _).symm, first, second⟩, start, rfl⟩

theorem spells_mark (chars : String) (known : chars ∈ Token.marks) :
    Spells (mark chars) (fun (_ : Unit) trees => trees = []) (fun _ => [⟨.mark chars, none⟩])
      Free := by
  refine (spells_token Free (fun _ => .mark chars) (fun _ _ => []) ?_ fun _ => trivial).shown
    (fun ⟨_, same⟩ => same) id
  intro start taken rest trees
  rw [takes_text]
  constructor
  · rintro ⟨rfl, rfl⟩
    exact ⟨(), rfl, known, rfl, trivial⟩
  · rintro ⟨_, rfl, _, rfl, _⟩
    exact ⟨rfl, rfl⟩

theorem takes_chars_wordEnd {chars : List Char} {start : Nat} {taken rest : List Char}
    {trees : List Tree} : Takes (.both (.text chars) .wordEnd) start taken rest trees ↔
      trees = [] ∧ taken = chars ∧ ∀ char ∈ rest.head?, Text.isWord char = false := by
  rw [takes_both]
  constructor
  · rintro ⟨front, back, left, right, rfl, rfl, first, second⟩
    obtain ⟨rfl, rfl⟩ := takes_text.mp first
    obtain ⟨rfl, ends, rfl⟩ := takes_wordEnd.mp second
    exact ⟨rfl, List.append_nil _, ends⟩
  · rintro ⟨rfl, rfl, ends⟩
    exact ⟨taken, [], [], [], (List.append_nil _).symm, rfl, takes_text.mpr ⟨rfl, rfl⟩,
      takes_wordEnd.mpr ⟨rfl, ends, rfl⟩⟩

theorem spells_keyword (rule : Rule) (word : String) (known : word ∈ Token.keywords) :
    Spells (.both (keyword rule word) layout) (fun (_ : Unit) trees => ∃ tree, trees = [tree])
      (fun _ => [⟨.keyword word, none⟩]) Free := by
  refine (spells_token Free (fun _ => .keyword word)
    (fun start _ => [.node rule start (start + word.toList.length) []]) ?_ fun _ => trivial).shown
    (fun ⟨_, same⟩ => ⟨_, same⟩) id
  intro start taken rest trees
  unfold keyword
  rw [takes_named]
  constructor
  · rintro ⟨inner, rfl, below⟩
    obtain ⟨rfl, rfl, ends⟩ := takes_chars_wordEnd.mp below
    exact ⟨(), rfl, known, rfl, ends⟩
  · rintro ⟨_, rfl, _, rfl, ends⟩
    exact ⟨[], rfl, takes_chars_wordEnd.mpr ⟨rfl, rfl, ends⟩⟩

theorem takes_wholeWord {word : String} {start : Nat} {taken rest : List Char} {trees : List Tree} :
    Takes (wholeWord word) start taken rest trees ↔
      trees = [.word word.toList] ∧ taken = word.toList ∧
        ∀ char ∈ rest.head?, Text.isWord char = false := by
  unfold wholeWord
  rw [takes_both]
  constructor
  · rintro ⟨front, back, left, right, rfl, rfl, first, second⟩
    obtain ⟨rfl, inner, chars⟩ := takes_word.mp first
    obtain ⟨rfl, rfl⟩ := takes_text.mp chars
    obtain ⟨rfl, ends, rfl⟩ := takes_wordEnd.mp second
    exact ⟨rfl, List.append_nil _, ends⟩
  · rintro ⟨rfl, rfl, ends⟩
    exact ⟨word.toList, [], _, [], (List.append_nil _).symm, rfl,
      takes_word.mpr ⟨rfl, [], takes_text.mpr ⟨rfl, rfl⟩⟩, takes_wordEnd.mpr ⟨rfl, ends, rfl⟩⟩

theorem begins_wholeWord {word : String} {next : Option Char} (some : word.toList ≠ [])
    (other : next ≠ word.toList.head?) : (wholeWord word).begins next = false := by
  obtain ⟨char, more, same⟩ := List.exists_cons_of_ne_nil some
  simp only [same, List.head?_cons] at other
  simp [wholeWord, Expr.begins, same, other]

/-- A choice between words that their first characters tell apart takes any of them. -/
theorem takes_anyWord {first : String} {others : List String}
    (some : ∀ word ∈ first :: others, word.toList ≠ [])
    (apart : (first :: others).Pairwise fun one other => other.toList.head? ≠ one.toList.head?)
    {start : Nat} {taken rest : List Char} {trees : List Tree} :
    Takes (Expr.any (wholeWord first) (others.map wholeWord)) start taken rest trees ↔
      ∃ word ∈ first :: others, trees = [.word word.toList] ∧ taken = word.toList ∧
        ∀ char ∈ rest.head?, Text.isWord char = false := by
  induction others generalizing first with
  | nil =>
    rw [List.map_nil, Expr.any, takes_wholeWord]
    simp
  | cons second others ih =>
    obtain ⟨apartFirst, apartOthers⟩ := List.pairwise_cons.mp apart
    have later := ih (fun word member => some word (List.mem_cons_of_mem _ member)) apartOthers
    rw [List.map_cons, Expr.any, takes_either]
    constructor
    · rintro (own | ⟨_, other⟩)
      · exact ⟨first, List.mem_cons_self, takes_wholeWord.mp own⟩
      · obtain ⟨word, member, taken⟩ := later.mp other
        exact ⟨word, List.mem_cons_of_mem _ member, taken⟩
    · rintro ⟨word, member, rfl, rfl, ends⟩
      rcases List.mem_cons.mp member with rfl | inside
      · exact .inl (takes_wholeWord.mpr ⟨rfl, rfl, ends⟩)
      · refine .inr ⟨refuses_of_begins (begins_wholeWord (some first List.mem_cons_self) ?_),
          later.mpr ⟨word, inside, rfl, rfl, ends⟩⟩
        obtain ⟨char, more, same⟩ := List.exists_cons_of_ne_nil (some word member)
        have begins : (word.toList ++ rest).head? = word.toList.head? := by simp [same]
        rw [begins]
        exact apartFirst word inside

section Words
variable {Value : Type} {label : Value → String} {first : String} {others : List String}

/-- Values that are written as words, of which the grammar chooses one. -/
structure Worded (label : Value → String) (first : String) (others : List String) : Prop where
  some : ∀ word ∈ first :: others, word.toList ≠ []
  apart : (first :: others).Pairwise fun one other => other.toList.head? ≠ one.toList.head?
  known : ∀ word ∈ first :: others, word ∈ Token.keywords
  listed : ∀ value, label value ∈ first :: others
  onto : ∀ word ∈ first :: others, ∃ value, label value = word

theorem takes_words (worded : Worded label first others) {start : Nat} {taken rest : List Char}
    {trees : List Tree} :
    Takes (Expr.any (wholeWord first) (others.map wholeWord)) start taken rest trees ↔
      ∃ value, trees = [.word (label value).toList] ∧ (Token.keyword (label value)).Valid ∧
        taken = (Token.keyword (label value)).chars ∧
        (Token.keyword (label value)).Ends rest.head? := by
  rw [takes_anyWord worded.some worded.apart]
  constructor
  · rintro ⟨word, member, rfl, rfl, ends⟩
    obtain ⟨value, rfl⟩ := worded.onto word member
    exact ⟨value, rfl, worded.known _ member, rfl, ends⟩
  · rintro ⟨value, rfl, _, rfl, ends⟩
    exact ⟨label value, worded.listed value, rfl, rfl, ends⟩

theorem spells_words (worded : Worded label first others) :
    Spells (.both (Expr.any (wholeWord first) (others.map wholeWord)) layout)
      (fun value trees => trees = [.word (label value).toList])
      (fun value => [⟨.keyword (label value), none⟩]) Free :=
  (spells_token Free (fun value => .keyword (label value))
    (fun _ value => [.word (label value).toList]) (takes_words worded) fun _ => trivial).shown
    (fun ⟨_, same⟩ => same) id

theorem spells_namedWords (worded : Worded label first others) (rule : Rule) :
    Spells (.both (.named rule (Expr.any (wholeWord first) (others.map wholeWord))) layout)
      (fun value trees => ∃ start stop,
        trees = [.node rule start stop [.word (label value).toList]])
      (fun value => [⟨.keyword (label value), none⟩]) Free := by
  refine (spells_token Free (fun value => .keyword (label value))
    (fun start value => [.node rule start (start + (label value).toList.length)
      [.word (label value).toList]]) ?_ fun _ => trivial).shown
    (fun ⟨start, same⟩ => ⟨start, _, same⟩) id
  intro start taken rest trees
  rw [takes_named]
  constructor
  · rintro ⟨inner, rfl, below⟩
    obtain ⟨value, rfl, valid, rfl, ends⟩ := (takes_words worded).mp below
    exact ⟨value, rfl, valid, rfl, ends⟩
  · rintro ⟨value, rfl, valid, rfl, ends⟩
    exact ⟨_, rfl, (takes_words worded).mpr ⟨value, rfl, valid, rfl, ends⟩⟩

end Words

/-- A word of characters of two classes, as strings. -/
theorem takes_word_run {starts continues : Char → Bool} {start : Nat} {taken rest : List Char}
    {trees : List Tree} :
    Takes (.word (.both (.one starts) (.many continues))) start taken rest trees ↔
      ∃ name : String, trees = [.word name.toList] ∧
        (∃ first more, name.toList = first :: more ∧ starts first = true ∧
          ∀ char ∈ more, continues char = true) ∧
        taken = name.toList ∧ ∀ char ∈ rest.head?, continues char = false := by
  rw [takes_word]
  constructor
  · rintro ⟨rfl, inner, run⟩
    obtain ⟨char, more, rfl, accepted, goesOn, stops, _⟩ := takes_run.mp run
    have same : (String.ofList (char :: more)).toList = char :: more := String.toList_ofList
    exact ⟨String.ofList (char :: more), by rw [same], ⟨char, more, same, accepted, goesOn⟩,
      same.symm, stops⟩
  · rintro ⟨name, rfl, ⟨char, more, same, accepted, goesOn⟩, rfl, stops⟩
    exact ⟨rfl, [], takes_run.mpr ⟨char, more, same, accepted, goesOn, stops, rfl⟩⟩

/-- No dollar sign and no point follows. -/
def NoIdentifier (next : Option Char) : Prop := ∀ char ∈ next, char ≠ '$' ∧ char ≠ '.'

/-- No digit follows. -/
def NoDigit (next : Option Char) : Prop := ∀ char ∈ next, Grammar.isDigit char = false

theorem noIdentifier_of_chars {char : Char} (dollar : char ≠ '$') (point : char ≠ '.') :
    NoIdentifier (some char) := by
  intro other same
  exact Option.some.inj same ▸ ⟨dollar, point⟩

theorem noDigit_of_chars {char : Char} (other : Grammar.isDigit char = false) : NoDigit (some char) := by
  intro found same
  exact Option.some.inj same ▸ other

theorem spells_identifier :
    Spells identifier (Reads Read.identifier?) (fun name => [⟨.identifier name, none⟩])
      NoIdentifier := by
  refine ((spells_token NoIdentifier (fun name => .identifier name) (fun _ name => [.word name.toList])
    takes_word_run id).named .identifier).shown ?_ id
  rintro name trees ⟨start, stop, inner, rfl, _, rfl⟩
  exact ⟨_, rfl, by simp [Read.identifier?]⟩

theorem spells_letters :
    Spells (.both (.word (.both (.one isLetter) (.many continuesQualifier))) layout)
      (fun name trees => ∃ _ : Nat, trees = [.word name.toList])
      (fun name => [⟨.qualifier name, none⟩]) Free :=
  spells_token Free (fun name => .qualifier name) (fun _ name => [.word name.toList])
    takes_word_run fun _ => trivial

theorem spells_qualifier :
    Spells qualifier (Reads Read.mention?) (fun mention => [mention.lexeme]) Free := by
  refine (spells_letters.placed .qualifier fun name => ⟨.qualifier name, [], rfl⟩).map
    (fun value => ⟨value.2, value.1⟩) ?_ (fun _ => rfl) (fun mention => ⟨(_, _), rfl⟩) id
  rintro ⟨offset, name⟩ trees ⟨stop, inner, rfl, _, rfl⟩
  exact ⟨_, rfl, by simp [Read.mention?]⟩

/-- A qualifier whose offset is not recorded. -/
theorem spells_qualifierName :
    Spells qualifier
      (Reads fun tree => (Read.mention? tree).map Mention.name)
      (fun name => [⟨.qualifier name, none⟩]) Free := by
  refine (spells_letters.named .qualifier).shown ?_ id
  rintro name trees ⟨start, stop, inner, rfl, _, rfl⟩
  exact ⟨_, rfl, by simp [Read.mention?]⟩

theorem spells_integer :
    Spells integer (fun digits trees => ∃ start stop, trees = [.node .integer start stop [.word digits]])
      (fun digits => [⟨.digits digits, none⟩]) NoDigit := by
  refine ((spells_token NoDigit (fun digits => .digits digits) (fun _ digits => [.word digits]) ?_
    id).named .integer).shown ?_ id
  · intro start taken rest trees
    rw [takes_word]
    constructor
    · rintro ⟨rfl, inner, run⟩
      obtain ⟨char, more, rfl, digit, digits, stops, _⟩ := takes_run.mp run
      refine ⟨char :: more, rfl, ⟨by simp, fun other member => ?_⟩, rfl, stops⟩
      rcases List.mem_cons.mp member with rfl | later
      · exact digit
      · exact digits other later
    · rintro ⟨digits, rfl, ⟨some, all⟩, rfl, stops⟩
      obtain ⟨char, more, rfl⟩ := List.exists_cons_of_ne_nil some
      exact ⟨rfl, [], takes_run.mpr ⟨char, more, rfl, all char List.mem_cons_self,
        fun other later => all other (List.mem_cons_of_mem _ later), stops, rfl⟩⟩
  · rintro digits trees ⟨start, stop, inner, rfl, _, rfl⟩
    exact ⟨start, stop, rfl⟩

/-- A string with its quotation marks. -/
def quotation : Expr :=
  .both (.both (.text ['"']) (.word (.many staysInString))) (.text ['"'])

theorem takes_quotation {start : Nat} {taken rest : List Char} {trees : List Tree} :
    Takes quotation start taken rest trees ↔ ∃ text : String, trees = [.word text.toList] ∧
      (Token.quoted text).Valid ∧ taken = (Token.quoted text).chars ∧
        (Token.quoted text).Ends rest.head? := by
  unfold quotation
  rw [takes_both]
  constructor
  · rintro ⟨_, back, _, right, rfl, rfl, first, third⟩
    obtain ⟨front, middle, left, inner, rfl, rfl, first, second⟩ := takes_both.mp first
    obtain ⟨rfl, rfl⟩ := takes_text.mp first
    obtain ⟨rfl, rfl⟩ := takes_text.mp third
    obtain ⟨rfl, _, run⟩ := takes_word.mp second
    obtain ⟨stays, _, _⟩ := takes_many.mp run
    refine ⟨String.ofList middle, by simp, ?_, by simp [Token.chars], trivial⟩
    intro char member
    rw [String.toList_ofList] at member
    simpa [staysInString] using stays char member
  · rintro ⟨text, rfl, valid, rfl, _⟩
    refine ⟨'"' :: text.toList, ['"'], [.word text.toList], [], rfl, rfl,
      takes_both.mpr ⟨['"'], text.toList, [], [.word text.toList], rfl, rfl,
        takes_text.mpr ⟨rfl, rfl⟩, takes_word.mpr ⟨rfl, [], takes_many.mpr ⟨?_, ?_, rfl⟩⟩⟩,
      takes_text.mpr ⟨rfl, rfl⟩⟩
    · intro char member
      simpa [staysInString] using valid char member
    · intro char follows
      cases follows
      decide

theorem spells_string :
    Spells string (Reads Read.string?) (fun text => [⟨.quoted text, none⟩]) Free := by
  have text := spells_token Free (fun text => .quoted text) (fun _ text => [.word text.toList])
    takes_quotation fun _ => trivial
  refine (text.assoc.assoc.named .string).shown ?_ id
  rintro text trees ⟨start, stop, inner, rfl, _, rfl⟩
  exact ⟨_, rfl, by simp [Read.string?]⟩

theorem worded_severity : Worded Severity.label "error" ["warning"] where
  some := by decide
  apart := by decide
  known := by decide
  listed severity := by
    cases severity with
    | error => decide
    | warning => decide
  onto word member := by
    rcases List.mem_cons.mp member with rfl | other
    · exact ⟨.error, rfl⟩
    · exact ⟨.warning, (List.mem_singleton.mp other).symm⟩

theorem spells_severity :
    Spells severity (Reads Read.severity?) (fun severity => [⟨.keyword severity.label, none⟩])
      Free := by
  refine ((spells_words worded_severity).named .severity).shown ?_ id
  rintro severity trees ⟨start, stop, inner, rfl, rfl⟩
  refine ⟨_, rfl, ?_⟩
  cases severity with
  | error => rfl
  | warning => rfl

end SchemeTyping.AnalysisUnit
