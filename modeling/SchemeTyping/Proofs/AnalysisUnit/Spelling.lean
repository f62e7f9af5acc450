import Mathlib.Data.List.Forall2
import SchemeTyping.Proofs.AnalysisUnit.Characters
import SchemeTyping.Proofs.AnalysisUnit.Rendering

/-! Spelling: an expression spells values by lexemes if it takes exactly what lays out the lexemes of a
value. Spellings are put together the way expressions are. -/
namespace SchemeTyping.AnalysisUnit
open Peg

/-- What may stand after layout: nothing, or a character that is no layout and, if it is a word
character, one of an ASCII word. -/
structure Opens (next : Option Char) : Prop where
  clear : Clear next
  ascii : ∀ char ∈ next, Text.isWord char = true → Grammar.continuesQualifier char = true

theorem opens_none : Opens none := ⟨by simp [Clear], by simp⟩

theorem opens_of_isVisible {char : Char} (visible : isVisible char = true) : Opens (some char) := by
  refine ⟨fun other same => ?_, fun other same word => ?_⟩
  · cases same
    refine ⟨isBlank_of_isVisible visible, fun sharp => ?_⟩
    rw [sharp] at visible
    exact absurd visible (by decide)
  · cases same
    exact continuesQualifier_of_isVisible visible word

/-- Every token begins with a visible character. -/
theorem Token.Valid.head {token : Token} (valid : token.Valid) :
    ∃ char more, token.chars = char :: more ∧ isVisible char = true := by
  cases token with
  | keyword word =>
    have all : ∀ word ∈ Token.keywords, word.toList.head?.any isVisible = true := by decide
    obtain ⟨char, first, visible⟩ := (Option.any_eq_true _ _).mp (all word valid)
    obtain ⟨more, same⟩ := List.head?_eq_some_iff.mp first
    exact ⟨char, more, same, visible⟩
  | mark chars =>
    have all : ∀ chars ∈ Token.marks, chars.toList.head?.any isVisible = true := by decide
    obtain ⟨char, first, visible⟩ := (Option.any_eq_true _ _).mp (all chars valid)
    obtain ⟨more, same⟩ := List.head?_eq_some_iff.mp first
    exact ⟨char, more, same, visible⟩
  | qualifier name =>
    obtain ⟨first, more, same, letter, _⟩ := valid
    exact ⟨first, more, same, isVisible_of_isLetter letter⟩
  | identifier name =>
    obtain ⟨first, more, same, starts, _⟩ := valid
    exact ⟨first, more, same, isVisible_of_startsIdentifier starts⟩
  | digits chars =>
    obtain ⟨some, digits⟩ := valid
    obtain ⟨first, more, rfl⟩ := List.exists_cons_of_ne_nil some
    exact ⟨first, more, rfl, isVisible_of_isDigit (digits first List.mem_cons_self)⟩
  | quoted text => exact ⟨'"', text.toList ++ ['"'], rfl, by decide⟩

namespace Laid
variable {rest taken : List Char} {start : Nat} {first second : List Lexeme}

theorem append : Laid rest start (first ++ second) taken ↔ ∃ front back, taken = front ++ back ∧
    Laid (back ++ rest) start first front ∧ Laid rest (start + front.length) second back := by
  induction first generalizing start taken with
  | nil =>
    constructor
    · exact fun laid => ⟨[], taken, rfl, .done, laid⟩
    · rintro ⟨front, back, rfl, head, tail⟩
      cases head with
      | done => exact tail
  | cons lexeme first ih =>
    constructor
    · intro laid
      rw [List.cons_append] at laid
      cases laid with
      | next valid placed gapped apart more =>
        obtain ⟨front, back, rfl, head, tail⟩ := ih.mp more
        refine ⟨lexeme.token.chars ++ _ ++ front, back, by simp only [List.append_assoc],
          .next valid placed ?_ ?_ head, ?_⟩
        · simpa using gapped
        · simpa using apart
        · simpa [Nat.add_assoc] using tail
    · rintro ⟨front, back, rfl, head, tail⟩
      cases head with
      | next valid placed gapped apart more =>
        rw [List.append_assoc]
        refine .next valid placed ?_ ?_ (ih.mpr ⟨_, back, rfl, more, ?_⟩)
        · simpa using gapped
        · simpa using apart
        · simpa [Nat.add_assoc] using tail

/-- Lexemes are laid out from the first character of the first token on. -/
theorem head {lexeme : Lexeme} {lexemes : List Lexeme}
    (laid : Laid rest start (lexeme :: lexemes) taken) :
    lexeme.token.Valid ∧ (taken ++ rest).head? = lexeme.token.chars.head? := by
  cases laid with
  | next valid placed gapped apart more =>
    obtain ⟨char, others, same, _⟩ := valid.head
    exact ⟨valid, by simp [same]⟩

/-- Where lexemes are laid out, what follows is the first character of the first token. -/
theorem follows {lexeme : Lexeme} {lexemes : List Lexeme} {follow : Option Char → Prop}
    (laid : Laid rest start (lexeme :: lexemes) taken) (allowed : follow lexeme.token.chars.head?) :
    follow (taken ++ rest).head? := by
  rw [laid.head.2]
  exact allowed

theorem begins_eq {token : Token} {offset : Option Nat} {lexemes : List Lexeme}
    (laid : Laid rest start (⟨token, offset⟩ :: lexemes) taken) (expr : Expr) :
    expr.begins (taken ++ rest).head? = expr.begins token.chars.head? := by
  rw [laid.head.2]

theorem opens {lexemes : List Lexeme} (laid : Laid rest start lexemes taken)
    (ready : Opens rest.head?) : Opens (taken ++ rest).head? := by
  cases lexemes with
  | nil =>
    cases laid with
    | done => exact ready
  | cons lexeme lexemes =>
    obtain ⟨valid, same⟩ := laid.head
    obtain ⟨char, more, chars, visible⟩ := valid.head
    rw [same, chars]
    exact opens_of_isVisible visible

end Laid

/-- An expression spells values by lexemes. What it takes lays out the lexemes of a value that shows in
the trees; and it takes what lays out the lexemes of a value, if what comes next may follow. -/
structure Spells {Value : Type} (expr : Expr) (shows : Value → List Tree → Prop)
    (lexemes : Value → List Lexeme) (follow : Option Char → Prop) : Prop where
  read : ∀ {start : Nat} {taken rest : List Char} {trees : List Tree},
    Takes expr start taken rest trees →
      ∃ value, shows value trees ∧ Laid rest start (lexemes value) taken
  write : ∀ {start : Nat} {taken rest : List Char} {value : Value},
    Laid rest start (lexemes value) taken → Opens rest.head? → follow rest.head? →
      ∃ trees, Takes expr start taken rest trees ∧ shows value trees

/-- Anything may follow. -/
def Free (_ : Option Char) : Prop := True

namespace Spells
variable {Value Other : Type} {expr otherExpr : Expr} {shows : Value → List Tree → Prop}
  {otherShows : Other → List Tree → Prop} {lexemes : Value → List Lexeme}
  {otherLexemes : Other → List Lexeme} {follow otherFollow : Option Char → Prop}

/-- One spelling after the other. What the second begins with may follow the first. -/
theorem both (first : Spells expr shows lexemes follow)
    (second : Spells otherExpr otherShows otherLexemes otherFollow)
    (leads : ∀ {value start taken rest}, Laid rest start (otherLexemes value) taken →
      otherFollow rest.head? → follow (taken ++ rest).head?) :
    Spells (.both expr otherExpr)
      (fun (value : Value × Other) trees => ∃ left right, trees = left ++ right ∧
        shows value.1 left ∧ otherShows value.2 right)
      (fun value => lexemes value.1 ++ otherLexemes value.2) otherFollow where
  read takes := by
    obtain ⟨front, back, left, right, rfl, rfl, head, tail⟩ := takes_both.mp takes
    obtain ⟨value, seen, laid⟩ := first.read head
    obtain ⟨other, otherSeen, otherLaid⟩ := second.read tail
    exact ⟨(value, other), ⟨left, right, rfl, seen, otherSeen⟩,
      Laid.append.mpr ⟨front, back, rfl, laid, otherLaid⟩⟩
  write laid opens follows := by
    obtain ⟨front, back, rfl, head, tail⟩ := Laid.append.mp laid
    obtain ⟨right, tailTakes, otherSeen⟩ := second.write tail opens follows
    obtain ⟨left, headTakes, seen⟩ := first.write head (tail.opens opens) (leads tail follows)
    exact ⟨left ++ right,
      takes_both.mpr ⟨front, back, left, right, rfl, rfl, headTakes, tailTakes⟩,
      left, right, rfl, seen, otherSeen⟩

/-- A spelling that nothing may not follow, and another one after it. -/
theorem andThen (first : Spells expr shows lexemes Free)
    (second : Spells otherExpr otherShows otherLexemes otherFollow) :
    Spells (.both expr otherExpr)
      (fun (value : Value × Other) trees => ∃ left right, trees = left ++ right ∧
        shows value.1 left ∧ otherShows value.2 right)
      (fun value => lexemes value.1 ++ otherLexemes value.2) otherFollow :=
  first.both second fun _ _ => trivial

/-- The same spelling of other values, after which less may follow. -/
theorem map (spells : Spells expr shows lexemes follow) (values : Value → Other)
    (sees : ∀ {value trees}, shows value trees → otherShows (values value) trees)
    (same : ∀ value, otherLexemes (values value) = lexemes value)
    (onto : ∀ other, ∃ value, values value = other)
    (allows : ∀ {next}, otherFollow next → follow next) :
    Spells expr otherShows otherLexemes otherFollow where
  read takes := by
    obtain ⟨value, seen, laid⟩ := spells.read takes
    exact ⟨values value, sees seen, same value ▸ laid⟩
  write laid opens follows := by
    rename_i other
    obtain ⟨value, rfl⟩ := onto other
    obtain ⟨trees, takes, seen⟩ := spells.write (same value ▸ laid) opens (allows follows)
    exact ⟨trees, takes, sees seen⟩

/-- The same spelling, if it shows in another way. -/
theorem shown {shows' : Value → List Tree → Prop} (spells : Spells expr shows lexemes follow)
    (sees : ∀ {value trees}, shows value trees → shows' value trees)
    (allows : ∀ {next}, otherFollow next → follow next) :
    Spells expr shows' lexemes otherFollow :=
  spells.map id sees (fun _ => rfl) (fun value => ⟨value, rfl⟩) allows

theorem assoc {third : Expr} (spells : Spells (.both (.both expr otherExpr) third) shows lexemes follow) :
    Spells (.both expr (.both otherExpr third)) shows lexemes follow where
  read takes := spells.read (takes_both_assoc.mp takes)
  write laid opens follows := by
    obtain ⟨trees, takes, seen⟩ := spells.write laid opens follows
    exact ⟨trees, takes_both_assoc.mpr takes, seen⟩

/-- A choice, if the first alternative cannot begin where the second is laid out. -/
theorem either {shows : Value ⊕ Other → List Tree → Prop} {lexemes : Value ⊕ Other → List Lexeme}
    (first : Spells expr (fun value => shows (.inl value)) (fun value => lexemes (.inl value)) follow)
    (second : Spells otherExpr (fun value => shows (.inr value)) (fun value => lexemes (.inr value))
      otherFollow)
    (apart : ∀ {value start taken rest}, Laid rest start (lexemes (.inr value)) taken →
      expr.begins (taken ++ rest).head? = false) :
    Spells (.either expr otherExpr) shows lexemes (fun next => follow next ∧ otherFollow next) where
  read takes := by
    rcases takes_either.mp takes with inner | ⟨_, inner⟩
    · obtain ⟨value, seen, laid⟩ := first.read inner
      exact ⟨.inl value, seen, laid⟩
    · obtain ⟨other, seen, laid⟩ := second.read inner
      exact ⟨.inr other, seen, laid⟩
  write laid opens follows := by
    rename_i value
    cases value with
    | inl value =>
      obtain ⟨trees, takes, seen⟩ := first.write laid opens follows.1
      exact ⟨trees, takes_either.mpr (.inl takes), seen⟩
    | inr other =>
      obtain ⟨trees, takes, seen⟩ := second.write laid opens follows.2
      exact ⟨trees, takes_either.mpr (.inr ⟨refuses_of_begins (apart laid), takes⟩), seen⟩

/-- A choice of three that is made into values of one type. -/
theorem choice {Third Made : Type} {thirdExpr : Expr} {shows : Made → List Tree → Prop}
    {lexemes : Made → List Lexeme} {thirdFollow : Option Char → Prop}
    (make : Value ⊕ Other ⊕ Third → Made) (onto : ∀ made, ∃ value, make value = made)
    (first : Spells expr (fun value => shows (make (.inl value)))
      (fun value => lexemes (make (.inl value))) follow)
    (second : Spells otherExpr (fun value => shows (make (.inr (.inl value))))
      (fun value => lexemes (make (.inr (.inl value)))) otherFollow)
    (third : Spells thirdExpr (fun value => shows (make (.inr (.inr value))))
      (fun value => lexemes (make (.inr (.inr value)))) thirdFollow)
    (apart : ∀ {value start taken rest}, Laid rest start (lexemes (make (.inr (.inl value)))) taken →
      expr.begins (taken ++ rest).head? = false)
    (apartThird : ∀ {value start taken rest},
      Laid rest start (lexemes (make (.inr (.inr value)))) taken →
        expr.begins (taken ++ rest).head? = false ∧ otherExpr.begins (taken ++ rest).head? = false) :
    Spells (.either expr (.either otherExpr thirdExpr)) shows lexemes
      (fun next => follow next ∧ otherFollow next ∧ thirdFollow next) := by
  have later : Spells (.either otherExpr thirdExpr) (fun value => shows (make (.inr value)))
      (fun value => lexemes (make (.inr value))) _ :=
    second.either third fun laid => (apartThird laid).2
  have all : Spells (.either expr (.either otherExpr thirdExpr)) (fun value => shows (make value))
      (fun value => lexemes (make value)) _ :=
    first.either later fun {value} _ _ _ laid => by
      cases value with
      | inl other => exact apart laid
      | inr third => exact (apartThird laid).1
  exact all.map make id (fun _ => rfl) onto id

/-- What may be missing. -/
theorem optional (spells : Spells expr shows lexemes follow) :
    Spells (.optional expr)
      (fun (value : Option Value) trees => value.elim (trees = []) fun value => shows value trees)
      (fun value => value.elim [] lexemes)
      (fun next => follow next ∧ expr.begins next = false) where
  read takes := by
    rcases takes_optional.mp takes with inner | ⟨_, rfl, rfl⟩
    · obtain ⟨value, seen, laid⟩ := spells.read inner
      exact ⟨some value, seen, laid⟩
    · exact ⟨none, rfl, .done⟩
  write laid opens follows := by
    rename_i value
    cases value with
    | none =>
      cases laid with
      | done =>
        exact ⟨[], takes_optional.mpr (.inr ⟨refuses_of_begins follows.2, rfl, rfl⟩), rfl⟩
    | some value =>
      obtain ⟨trees, takes, seen⟩ := spells.write laid opens follows.1
      exact ⟨trees, takes_optional.mpr (.inl takes), seen⟩

/-- A named expression shows as one node. -/
theorem named (rule : Rule) (spells : Spells expr shows lexemes follow) :
    Spells (.named rule expr)
      (fun value trees => ∃ start stop inner, trees = [.node rule start stop inner] ∧
        shows value inner) lexemes follow where
  read takes := by
    obtain ⟨inner, rfl, below⟩ := takes_named.mp takes
    obtain ⟨value, seen, laid⟩ := spells.read below
    exact ⟨value, ⟨_, _, inner, rfl, seen⟩, laid⟩
  write laid opens follows := by
    obtain ⟨inner, takes, seen⟩ := spells.write laid opens follows
    exact ⟨_, takes_named.mpr ⟨inner, rfl, takes⟩, _, _, inner, rfl, seen⟩

/-- No digits are read where the expression names no integer. -/
theorem silent (spells : Spells expr shows lexemes follow)
    (absent : expr.mentions .integer = false) :
    Spells expr (fun value trees => shows value trees ∧ wordsOfAll .integer trees = []) lexemes
      follow where
  read takes := by
    obtain ⟨value, seen, laid⟩ := spells.read takes
    exact ⟨value, ⟨seen, wordsOfAll_of_takes absent takes⟩, laid⟩
  write laid opens follows := by
    obtain ⟨trees, takes, seen⟩ := spells.write laid opens follows
    exact ⟨trees, takes, seen, wordsOfAll_of_takes absent takes⟩

end Spells

/-- Lexemes of which the first one is recorded at an offset. -/
def placeFirst (offset : Nat) : List Lexeme → List Lexeme
  | [] => []
  | lexeme :: lexemes => { lexeme with offset := some offset } :: lexemes

theorem Laid.placeFirst {rest taken : List Char} {start offset : Nat} {token : Token}
    {lexemes : List Lexeme} :
    Laid rest start (placeFirst offset (⟨token, none⟩ :: lexemes)) taken ↔
      offset = start ∧ Laid rest start (⟨token, none⟩ :: lexemes) taken := by
  constructor
  · intro laid
    cases laid with
    | next valid placed gapped apart more =>
      exact ⟨placed offset rfl, .next valid (by simp) gapped apart more⟩
  · rintro ⟨rfl, laid⟩
    cases laid with
    | next valid placed gapped apart more =>
      exact .next valid (fun other same => (Option.some.inj same).symm) gapped apart more

namespace Spells
variable {Value : Type} {expr : Expr} {shows : Value → List Tree → Prop}
  {lexemes : Value → List Lexeme} {follow : Option Char → Prop}

/-- A named expression whose offset is recorded at its first token. -/
theorem placed (rule : Rule) (spells : Spells expr shows lexemes follow)
    (bare : ∀ value, ∃ token more, lexemes value = ⟨token, none⟩ :: more) :
    Spells (.named rule expr)
      (fun (value : Nat × Value) trees => ∃ stop inner,
        trees = [.node rule value.1 stop inner] ∧ shows value.2 inner)
      (fun value => placeFirst value.1 (lexemes value.2)) follow where
  read takes := by
    obtain ⟨inner, rfl, below⟩ := takes_named.mp takes
    obtain ⟨value, seen, laid⟩ := spells.read below
    obtain ⟨token, more, same⟩ := bare value
    refine ⟨(_, value), ⟨_, inner, rfl, seen⟩, ?_⟩
    rw [same] at laid ⊢
    exact Laid.placeFirst.mpr ⟨rfl, laid⟩
  write laid opens follows := by
    rename_i value
    obtain ⟨token, more, same⟩ := bare value.2
    rw [same] at laid
    obtain ⟨placed, laid⟩ := Laid.placeFirst.mp laid
    obtain ⟨inner, takes, seen⟩ := spells.write (same ▸ laid) opens follows
    exact ⟨_, takes_named.mpr ⟨inner, rfl, takes⟩, _, inner, by rw [placed], seen⟩

end Spells

/-- One tree shows, and it reads as a value. -/
def Reads {Value : Type} (read : Tree → Option Value) (value : Value) (trees : List Tree) : Prop :=
  ∃ tree, trees = [tree] ∧ read tree = some value

/-- The trees are those below a node that reads as a value. -/
def Below {Value : Type} (rule : Rule) (read : Tree → Option Value) (value : Value)
    (trees : List Tree) : Prop :=
  ∀ start stop, read (.node rule start stop trees) = some value

theorem Spells.reads {Value : Type} {expr : Expr} {rule : Rule} {read : Tree → Option Value}
    {lexemes : Value → List Lexeme} {follow : Option Char → Prop}
    (spells : Spells expr (Below rule read) lexemes follow) :
    Spells (.named rule expr) (Reads read) lexemes follow := by
  refine (spells.named rule).shown ?_ id
  rintro value trees ⟨start, stop, inner, rfl, seen⟩
  exact ⟨_, rfl, seen start stop⟩

theorem Laid.ne_nil {rest taken : List Char} {start : Nat} {lexemes : List Lexeme}
    (laid : Laid rest start lexemes taken) (some : lexemes ≠ []) : taken ≠ [] := by
  cases laid with
  | done => exact absurd rfl some
  | next valid placed gapped apart more =>
    obtain ⟨char, others, same, _⟩ := valid.head
    simp [same]

theorem filterMap_of_forall₂ {Value : Type} {read : Tree → Option Value} {values : List Value}
    {trees : List Tree} (all : List.Forall₂ (fun value tree => read tree = some value) values trees) :
    trees.filterMap read = values := by
  induction all with
  | nil => rfl
  | cons head _ ih => rw [List.filterMap_cons_some head, ih]

/-- A repetition of what shows as one tree, if a further one may follow the one before. -/
theorem Spells.star {Value : Type} {expr : Expr} {shows : Value → Tree → Prop}
    {lexemes : Value → List Lexeme} {follow : Option Char → Prop}
    (spells : Spells expr (fun value trees => ∃ tree, trees = [tree] ∧ shows value tree) lexemes follow)
    (some : ∀ value, lexemes value ≠ [])
    (again : ∀ {value start taken rest}, Laid rest start (lexemes value) taken →
      follow (taken ++ rest).head?) :
    Spells (.star expr) (List.Forall₂ shows) (fun values => values.flatMap lexemes)
      (fun next => follow next ∧ expr.begins next = false) where
  read takes := by
    rename_i rest _
    refine star_induction (motive := fun start taken trees => ∃ values,
      List.Forall₂ shows values trees ∧ Laid rest start (values.flatMap lexemes) taken)
      (fun _ _ => ⟨[], .nil, .done⟩) (fun start front back left right _ head later => ?_) takes
    obtain ⟨value, ⟨tree, rfl, seen⟩, laid⟩ := spells.read head
    obtain ⟨values, others, more⟩ := later
    exact ⟨value :: values, .cons seen others, Laid.append.mpr ⟨front, back, rfl, laid, more⟩⟩
  write laid opens follows := by
    rename_i start taken rest values
    induction values generalizing start taken with
    | nil =>
      cases laid with
      | done => exact ⟨[], takes_star_nil follows.2, .nil⟩
    | cons value values ih =>
      obtain ⟨front, back, rfl, head, tail⟩ := Laid.append.mp laid
      obtain ⟨right, tailTakes, others⟩ := ih tail
      -- after this value stands a further one, or what follows the repetition
      have next : follow (back ++ rest).head? := by
        cases values with
        | nil =>
          cases tail with
          | done => exact follows.1
        | cons further values =>
          obtain ⟨middle, last, rfl, first, _⟩ := Laid.append.mp tail
          rw [List.append_assoc]
          exact again first
      obtain ⟨left, headTakes, tree, rfl, seen⟩ := spells.write head (tail.opens opens) next
      refine ⟨tree :: right, ?_, .cons seen others⟩
      exact takes_star.mpr (.inl ⟨front, back, [tree], right, head.ne_nil (some value), rfl, rfl,
        headTakes, tailTakes⟩)

end SchemeTyping.AnalysisUnit
