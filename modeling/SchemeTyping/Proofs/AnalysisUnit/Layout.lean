import SchemeTyping.AnalysisUnit.Grammar
import SchemeTyping.Proofs.Peg.Taking

/-! Layout between tokens, and the characters that end it. The layout expression takes all of the layout
that stands before a clear character. -/
namespace SchemeTyping.AnalysisUnit
open Peg

/-- White space and comments. A comment ends with its line, or with the text where the text ends. -/
inductive Layout (ends : Prop) : List Char → Prop where
  | nothing : Layout ends []
  | blank {char : Char} {later : List Char} (white : Text.isBlank char = true)
      (more : Layout ends later) : Layout ends (char :: later)
  | comment {line later : List Char} (oneLine : '\n' ∉ line) (more : Layout ends later) :
      Layout ends ('#' :: line ++ '\n' :: later)
  | last {line : List Char} (oneLine : '\n' ∉ line) (done : ends) : Layout ends ('#' :: line)

/-- No layout begins here: the text ends, or a character follows that is neither white nor a sharp. -/
def Clear (next : Option Char) : Prop :=
  ∀ char ∈ next, Text.isBlank char = false ∧ char ≠ '#'

namespace Layout
variable {ends : Prop} {gap : List Char}

theorem blanks {run : List Char} (white : ∀ char ∈ run, Text.isBlank char = true)
    (more : Layout ends gap) : Layout ends (run ++ gap) := by
  induction run with
  | nil => exact more
  | cons char run ih =>
    exact .blank (white char List.mem_cons_self) (ih fun other later =>
      white other (List.mem_cons_of_mem _ later))

/-- Layout stays layout where more may end with the text. -/
theorem mono {other : Prop} (wider : ends → other) (layout : Layout ends gap) : Layout other gap := by
  induction layout with
  | nothing => exact .nothing
  | blank white _ ih => exact .blank white ih
  | comment oneLine _ ih => exact .comment oneLine ih
  | last oneLine done => exact .last oneLine (wider done)

theorem tail_of_newline (layout : Layout ends ('\n' :: gap)) : Layout ends gap := by
  cases layout with
  | blank _ more => exact more

/-- Layout begins with a white character or a sharp. -/
theorem not_clear {char : Char} (layout : Layout ends (char :: gap)) : ¬ Clear (some char) := by
  intro clear
  obtain ⟨dark, other⟩ := clear char rfl
  cases layout with
  | blank white _ =>
    rw [white] at dark
    cases dark
  | comment _ _ => exact other rfl
  | last _ _ => exact other rfl

end Layout

namespace Grammar
variable {start : Nat} {taken rest : List Char} {trees : List Tree}

/-- A run of white space. -/
def blankRun : Expr := .both (.one Text.isBlank) (.many Text.isBlank)

theorem takes_comment : Takes comment start taken rest trees ↔
    ∃ line, taken = '#' :: line ∧ '\n' ∉ line ∧ (∀ next ∈ rest.head?, next = '\n') ∧
      trees = [] := by
  unfold comment
  rw [takes_both]
  constructor
  · rintro ⟨front, line, left, right, rfl, rfl, first, others⟩
    obtain ⟨rfl, rfl⟩ := takes_text.mp first
    obtain ⟨stays, stops, rfl⟩ := takes_many.mp others
    refine ⟨line, rfl, fun member => ?_, fun next follows => ?_, rfl⟩
    · exact absurd (stays _ member) (by decide)
    · simpa [staysInComment] using stops next follows
  · rintro ⟨line, rfl, oneLine, stops, rfl⟩
    refine ⟨['#'], line, [], [], rfl, rfl, takes_text.mpr ⟨rfl, rfl⟩, takes_many.mpr ⟨?_, ?_, rfl⟩⟩
    · intro char member
      have other : char ≠ '\n' := fun same => oneLine (same ▸ member)
      simpa [staysInComment] using other
    · intro next follows
      simp [staysInComment, stops next follows]

theorem refuses_blankRun_sharp {more : List Char} : Refuses blankRun start ('#' :: more) := by
  refine refuses_of_begins ?_
  simp only [List.head?_cons, blankRun, Expr.begins, Option.any_some]
  decide

/-- The repetition of which layout consists. -/
def layoutRuns : Expr := .star (.either blankRun comment)

/-- No layout begins with a clear character. -/
theorem begins_layoutRun_of_clear {next : Option Char} (clear : Clear next) :
    (Peg.Expr.either blankRun comment : Expr).begins next = false := by
  cases next with
  | none => rfl
  | some char =>
    obtain ⟨dark, other⟩ := clear char rfl
    simp [blankRun, comment, Expr.begins, dark, other]

theorem takes_layoutRuns_of_clear (clear : Clear rest.head?) :
    Takes layoutRuns start [] rest [] :=
  takes_star_nil (begins_layoutRun_of_clear clear)

/-- A white character before layout belongs to it. -/
theorem takes_layoutRuns_blank {char : Char} {gap : List Char} (white : Text.isBlank char = true)
    (clear : Clear rest.head?) (later : Takes layoutRuns (start + 1) gap rest []) :
    Takes layoutRuns start (char :: gap) rest [] := by
  -- Unless the layout goes on with white space, the character is a run of its own.
  have alone (dark : ∀ next ∈ (gap ++ rest).head?, Text.isBlank next = false) :
      Takes layoutRuns start (char :: gap) rest [] := by
    have run : Takes blankRun start [char] (gap ++ rest) [] :=
      takes_run.mpr ⟨char, [], rfl, white, by simp, dark, rfl⟩
    exact takes_star.mpr (.inl ⟨[char], gap, [], [], by simp, rfl, rfl,
      takes_either.mpr (.inl run), later⟩)
  rcases takes_star.mp later with ⟨front, back, left, right, _, rfl, silent, head, tail⟩ | ⟨rfl, _⟩
  · obtain ⟨rfl, rfl⟩ := List.append_eq_nil_iff.mp silent.symm
    rcases takes_either.mp head with first | ⟨_, first⟩
    · obtain ⟨other, run, rfl, whiteOther, whites, stops, _⟩ := takes_run.mp first
      have longer : Takes blankRun start (char :: other :: run) (back ++ rest) [] := by
        refine takes_run.mpr ⟨char, other :: run, rfl, white, fun next member => ?_, stops, rfl⟩
        rcases List.mem_cons.mp member with rfl | inside
        · exact whiteOther
        · exact whites next inside
      refine takes_star.mpr (.inl ⟨char :: other :: run, back, [], [], by simp, rfl, rfl,
        takes_either.mpr (.inl longer), ?_⟩)
      simpa [Nat.add_assoc, Nat.add_comm, Nat.add_left_comm] using tail
    · obtain ⟨line, rfl, _⟩ := takes_comment.mp first
      refine alone fun next follows => ?_
      cases follows
      decide
  · exact alone fun next follows => (clear next follows).1

/-- A comment before what is layout by itself belongs to it. -/
theorem takes_layoutRuns_comment {line back : List Char} (oneLine : '\n' ∉ line)
    (stops : ∀ next ∈ (back ++ rest).head?, next = '\n')
    (later : Takes layoutRuns (start + line.length + 1) back rest []) :
    Takes layoutRuns start ('#' :: line ++ back) rest [] := by
  have first : Takes comment start ('#' :: line) (back ++ rest) [] :=
    takes_comment.mpr ⟨line, rfl, oneLine, stops, rfl⟩
  refine takes_star.mpr (.inl ⟨'#' :: line, back, [], [], by simp, rfl, rfl,
    takes_either.mpr (.inr ⟨refuses_blankRun_sharp, first⟩), later⟩)

/-- All layout that a clear character ends is taken. -/
theorem takes_layoutRuns_of_layout (layout : Layout (rest = []) taken) (clear : Clear rest.head?) :
    Takes layoutRuns start taken rest [] := by
  induction layout generalizing start with
  | nothing => exact takes_layoutRuns_of_clear clear
  | blank white _ ih => exact takes_layoutRuns_blank white clear ih
  | comment oneLine _ ih =>
    refine takes_layoutRuns_comment oneLine (by simp) ?_
    exact takes_layoutRuns_blank (by decide) clear ih
  | @last line oneLine done =>
    subst done
    have nothing : Takes layoutRuns (start + line.length + 1) [] [] [] :=
      takes_layoutRuns_of_clear clear
    have whole : Takes layoutRuns start ('#' :: line ++ []) [] [] :=
      takes_layoutRuns_comment oneLine (by simp) nothing
    rwa [List.append_nil] at whole

/-- Only layout is taken, and all of it. -/
theorem layout_of_takes (takes : Takes layoutRuns start taken rest trees) :
    Layout (rest = []) taken ∧ Clear rest.head? := by
  refine star_induction (motive := fun _ taken _ => Layout (rest = []) taken ∧ Clear rest.head?)
    (fun start stops => ⟨.nothing, fun char follows => ?_⟩)
    (fun start front back left right _ head later => ?_) takes
  · obtain ⟨more, rfl⟩ := List.head?_eq_some_iff.mp follows
    refine ⟨?_, fun sharp => ?_⟩
    · cases white : Text.isBlank char with
      | false => rfl
      | true =>
        obtain ⟨run, back, rfl, others⟩ := exists_takes_many Text.isBlank (start + 1) more
        have first : Takes blankRun start (char :: run) back [] :=
          takes_both.mpr ⟨[char], run, [], [], rfl, rfl,
            takes_one.mpr ⟨char, white, rfl, rfl⟩, others⟩
        exact absurd (takes_either.mpr (.inl first)) (stops (char :: run) back [] (by simp) rfl)
    · obtain ⟨line, back, rfl, others⟩ := exists_takes_many staysInComment (start + 1) more
      subst sharp
      have first : Takes comment start ('#' :: line) back [] :=
        takes_both.mpr ⟨['#'], line, [], [], rfl, rfl, takes_text.mpr ⟨rfl, rfl⟩, others⟩
      exact absurd (takes_either.mpr (.inr ⟨refuses_blankRun_sharp, first⟩))
        (stops ('#' :: line) back [] (by simp) rfl)
  · obtain ⟨layout, clear⟩ := later
    refine ⟨?_, clear⟩
    rcases takes_either.mp head with first | ⟨_, first⟩
    · obtain ⟨char, run, rfl, white, whites, _, _⟩ := takes_run.mp first
      exact .blank white (layout.blanks whites)
    · obtain ⟨line, rfl, oneLine, stops, _⟩ := takes_comment.mp first
      cases back with
      | nil =>
        -- A comment that ends the layout ends the text, since a line end would be layout.
        have ends : rest = [] := by
          cases rest with
          | nil => rfl
          | cons char more =>
            obtain rfl : char = '\n' := stops char rfl
            exact absurd (clear '\n' rfl).1 (by decide)
        simpa using Layout.last oneLine ends
      | cons char later =>
        obtain rfl : char = '\n' := stops char rfl
        exact .comment oneLine layout.tail_of_newline

theorem takes_layout : Takes layout start taken rest trees ↔
    trees = [] ∧ Layout (rest = []) taken ∧ Clear rest.head? := by
  unfold layout
  rw [takes_hidden]
  constructor
  · rintro ⟨rfl, inner, takes⟩
    exact ⟨rfl, layout_of_takes takes⟩
  · rintro ⟨rfl, layout, clear⟩
    exact ⟨rfl, [], takes_layoutRuns_of_layout layout clear⟩

end Grammar
end SchemeTyping.AnalysisUnit
