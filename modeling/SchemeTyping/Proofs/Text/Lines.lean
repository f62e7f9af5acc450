import Mathlib.Algebra.GroupWithZero.Nat
import SchemeTyping.Proofs.Text.Span
import SchemeTyping.Text.Pieces

/-! The lines of a text. Each offset inside a text is on one of them, as far behind its start as the column
says, so that offsets and the places on lines correspond one to one, in the same order. -/
namespace SchemeTyping.Span
variable {text above line : List Char} {offset other rank width : Nat} {file : String}

/-- The lines of a text. There is always one, and every line feed begins a further one. -/
def lines (text : List Char) : List (List Char) := Text.pieces '\n' text

/-- The offset at which a line starts: every line above it takes its characters and a line feed. -/
def startOf (text : List Char) (rank : Nat) : Nat :=
  (((lines text).take rank).map fun line => line.length + 1).sum

/-- Places go down the lines, and from left to right on each. -/
def Precedes (first second : Span) : Prop :=
  first.line < second.line ∨ first.line = second.line ∧ first.column < second.column

theorem Precedes.apart {first second : Span} (before : first.Precedes second) :
    ¬ (first.line = second.line ∧ first.column = second.column) := by
  rintro ⟨sameLine, sameColumn⟩
  rcases before with above | ⟨_, left⟩
  · exact Int.ne_of_lt above sameLine
  · exact Int.ne_of_lt left sameColumn

theorem lines_newline (rest : List Char) : lines ('\n' :: rest) = [] :: lines rest := rfl

theorem lines_cons {char : Char} (plain : char ≠ '\n') (rest : List Char) :
    lines (char :: rest) = (lines rest).modifyHead (char :: ·) := if_neg plain

/-- Characters without a line feed come to stand before the first line of what follows. -/
theorem lines_plain_append (plain : '\n' ∉ line) (rest : List Char) :
    lines (line ++ rest) = (lines rest).modifyHead (line ++ ·) := by
  induction line with
  | nil => exact (congrFun List.modifyHead_id (lines rest)).symm
  | cons char line ih =>
    have apart : char ≠ '\n' := fun same => plain (same ▸ List.mem_cons_self)
    have later : '\n' ∉ line := fun member => plain (List.mem_cons_of_mem _ member)
    rw [List.cons_append, lines_cons apart, ih later, List.modifyHead_modifyHead]
    rfl

/-- Whole lines stay apart from what follows them: there are as many as line feeds, and together they are
as long as their text. -/
theorem lines_closed_append (closed : ∀ last ∈ above.getLast?, last = '\n') :
    ∃ whole : List (List Char), whole.length = above.count '\n' ∧
      (whole.map fun line => line.length + 1).sum = above.length ∧
      ∀ rest, lines (above ++ rest) = whole ++ lines rest := by
  induction above with
  | nil => exact ⟨[], rfl, rfl, fun rest => rfl⟩
  | cons char above ih =>
    by_cases feed : char = '\n'
    · subst feed
      have later : ∀ last ∈ above.getLast?, last = '\n' := by
        intro last ends
        exact closed last (by rw [List.getLast?_cons, Option.mem_def.mp ends]; rfl)
      obtain ⟨whole, count, size, parted⟩ := ih later
      refine ⟨[] :: whole, by simp [count], by simp [size, Nat.add_comm], fun rest => ?_⟩
      rw [List.cons_append, lines_newline, parted, List.cons_append]
    · cases above with
      | nil => exact absurd (closed char rfl) feed
      | cons second above =>
        obtain ⟨whole, count, size, parted⟩ := ih closed
        cases whole with
        | nil => simp at size
        | cons first whole =>
          refine ⟨(char :: first) :: whole, ?_, ?_, fun rest => ?_⟩
          · rw [List.count_cons_of_ne feed, ← count]
            rfl
          · simp only [List.map_cons, List.sum_cons, List.length_cons] at size ⊢
            omega
          · rw [List.cons_append, lines_cons feed, parted]
            rfl

theorem lines_ne_nil (text : List Char) : lines text ≠ [] := by
  induction text with
  | nil => exact List.cons_ne_nil _ _
  | cons char rest ih =>
    by_cases feed : char = '\n'
    · subst feed
      exact List.cons_ne_nil _ _
    · rw [lines_cons feed]
      simpa using ih

/-- The lines take all characters of their text, and one line feed fewer than there are lines. -/
theorem length_lines (text : List Char) :
    ((lines text).map fun line => line.length + 1).sum = text.length + 1 := by
  induction text with
  | nil => rfl
  | cons char rest ih =>
    by_cases feed : char = '\n'
    · subst feed
      rw [lines_newline, List.map_cons, List.sum_cons, ih, List.length_cons, List.length_nil]
      omega
    · obtain ⟨first, others, parts⟩ := List.exists_cons_of_ne_nil (lines_ne_nil rest)
      rw [parts] at ih
      rw [lines_cons feed, parts]
      simp only [List.modifyHead_cons, List.map_cons, List.sum_cons, List.length_cons] at ih ⊢
      omega

theorem startOf_succ (found : (lines text)[rank]? = some line) :
    startOf text (rank + 1) = startOf text rank + line.length + 1 := by
  unfold startOf
  rw [List.take_add_one, found, List.map_append, List.sum_append]
  rfl

theorem startOf_mono {lower upper : Nat} (below : lower ≤ upper) :
    startOf text lower ≤ startOf text upper := by
  obtain ⟨distance, rfl⟩ := Nat.exists_eq_add_of_le below
  unfold startOf
  rw [List.take_add, List.map_append, List.sum_append]
  exact Nat.le_add_right _ _

/-- A place on a line comes before the start of every line below. -/
theorem startOf_add_lt (found : (lines text)[rank]? = some line) (inside : width ≤ line.length)
    (below : rank < other) : startOf text rank + width < startOf text other := by
  have ends : startOf text (rank + 1) ≤ startOf text other := startOf_mono below
  rw [startOf_succ found] at ends
  omega

/-- Every line ends inside the text. -/
theorem startOf_add_length_le (found : (lines text)[rank]? = some line) :
    startOf text rank + line.length ≤ text.length := by
  have all : startOf text (lines text).length = text.length + 1 := by
    unfold startOf
    rw [List.take_length, length_lines]
  obtain ⟨within, _⟩ := List.getElem?_eq_some_iff.mp found
  have ends := startOf_add_lt found (Nat.le_refl _) within
  omega

/-- An offset is on one line at most. -/
theorem startOf_add_inj {otherRank otherWidth : Nat} {otherLine : List Char}
    (found : (lines text)[rank]? = some line) (inside : width ≤ line.length)
    (otherFound : (lines text)[otherRank]? = some otherLine) (otherInside : otherWidth ≤ otherLine.length)
    (same : startOf text rank + width = startOf text otherRank + otherWidth) :
    rank = otherRank ∧ width = otherWidth := by
  rcases Nat.lt_trichotomy rank otherRank with above | rfl | below
  · have apart := startOf_add_lt found inside above
    omega
  · exact ⟨rfl, Nat.add_left_cancel same⟩
  · have apart := startOf_add_lt otherFound otherInside below
    omega

/-- Every offset inside a text is on a line, and its place tells on which one and how far behind the start. -/
theorem ofOffset_on_line (inside : offset ≤ text.length) (file : String) :
    ∃ rank line width, (lines text)[rank]? = some line ∧ width ≤ line.length ∧
      offset = startOf text rank + width ∧
      ofOffset text offset file = { file, line := rank + 1, column := width + 1 } := by
  have behind : (ofOffset text offset file).Behind (text.take offset) file := behind_ofOffset inside
  obtain ⟨above, part, parts, closed, plain, place⟩ := behind
  obtain ⟨whole, count, size, parted⟩ := lines_closed_append closed
  obtain ⟨first, others, later⟩ := List.exists_cons_of_ne_nil (lines_ne_nil (text.drop offset))
  have split : lines text = whole ++ (part ++ first) :: others := by
    calc lines text = lines (above ++ (part ++ text.drop offset)) := by
          rw [← List.append_assoc, ← parts, List.take_append_drop]
      _ = whole ++ (part ++ first) :: others := by
          rw [parted, lines_plain_append plain, later]
          rfl
  have start : startOf text (above.count '\n') = above.length := by
    unfold startOf
    rw [split, ← count, List.take_left, size]
  refine ⟨above.count '\n', part ++ first, part.length, ?_, ?_, ?_, place⟩
  · rw [split, ← count]
    simp
  · rw [List.length_append]
    exact Nat.le_add_right _ _
  · rw [start, ← List.length_append, ← parts, List.length_take_of_le inside]

/-- Every place on a line is that of an offset. -/
theorem ofOffset_startOf (found : (lines text)[rank]? = some line) (inside : width ≤ line.length)
    (file : String) : startOf text rank + width ≤ text.length ∧
      ofOffset text ↑(startOf text rank + width) file = { file, line := rank + 1, column := width + 1 } := by
  have within : startOf text rank + width ≤ text.length :=
    Nat.le_trans (Nat.add_le_add_left inside _) (startOf_add_length_le found)
  obtain ⟨otherRank, otherLine, otherWidth, otherFound, otherInside, same, place⟩ :=
    ofOffset_on_line within file
  obtain ⟨rfl, rfl⟩ := startOf_add_inj found inside otherFound otherInside same
  exact ⟨within, place⟩

/-- The place of a greater offset comes behind that of a smaller one. -/
theorem precedes_of_lt (before : offset < other) (inside : other ≤ text.length) :
    (ofOffset text offset file).Precedes (ofOffset text other file) := by
  obtain ⟨rank, line, width, found, short, rfl, place⟩ :=
    ofOffset_on_line (Nat.le_trans (Nat.le_of_lt before) inside) file
  obtain ⟨otherRank, _, otherWidth, otherFound, otherShort, rfl, otherPlace⟩ :=
    ofOffset_on_line inside file
  rw [place, otherPlace]
  unfold Precedes
  rcases Nat.lt_trichotomy rank otherRank with above | rfl | below
  · exact .inl (by dsimp only; omega)
  · exact .inr ⟨rfl, by dsimp only; omega⟩
  · have apart := startOf_add_lt otherFound otherShort below
    omega

/-- The characters before a place settle it, whatever follows them. -/
theorem ofOffset_take_append (inside : offset ≤ text.length) (more : List Char) :
    ofOffset (text.take offset ++ more) offset file = ofOffset text offset file := by
  have within : offset ≤ (text.take offset).length := Nat.le_of_eq (List.length_take_of_le inside).symm
  have whole : ofOffset (text.take offset ++ text.drop offset) offset file =
      ofOffset (text.take offset) offset file := ofOffset_append within
  rw [ofOffset_append within, ← whole, List.take_append_drop]

/-- Offsets inside a text and the places on its lines correspond one to one: an offset has the line it is
on, and as column how far it is behind the start of that line; every place on a line is that of an offset;
and places come in the order of their offsets. What follows an offset does not move its place. -/
theorem offsets_match_places (text : List Char) (file : String) :
    (∀ offset : Nat, offset ≤ text.length → ∃ (rank : Nat) (line : List Char),
      (lines text)[rank]? = some line ∧ (ofOffset text offset file).line = rank + 1 ∧
      1 ≤ (ofOffset text offset file).line ∧ (ofOffset text offset file).line ≤ (lines text).length ∧
      1 ≤ (ofOffset text offset file).column ∧ (ofOffset text offset file).column ≤ line.length + 1 ∧
      offset = startOf text rank + (ofOffset text offset file).column - 1 ∧
      ∀ more, ofOffset (text.take offset ++ more) offset file = ofOffset text offset file) ∧
    (∀ (rank : Nat) (line : List Char) (width : Nat), (lines text)[rank]? = some line →
      width ≤ line.length → ∃ offset : Nat, offset ≤ text.length ∧
        ofOffset text offset file = { file, line := rank + 1, column := width + 1 }) ∧
    (∀ offset other : Nat, offset ≤ text.length → other ≤ text.length → offset ≠ other →
      ¬ ((ofOffset text offset file).line = (ofOffset text other file).line ∧
        (ofOffset text offset file).column = (ofOffset text other file).column)) ∧
    ∀ offset other : Nat, offset < other → other ≤ text.length →
      (ofOffset text offset file).Precedes (ofOffset text other file) := by
  refine ⟨fun offset inside => ?_, fun rank line width found inside => ?_,
    fun offset other inside within apart => ?_, fun offset other before inside => ?_⟩
  · obtain ⟨rank, line, width, found, short, sum, place⟩ := ofOffset_on_line inside file
    obtain ⟨within, _⟩ := List.getElem?_eq_some_iff.mp found
    have settled (more : List Char) : ofOffset (text.take offset ++ more) offset file =
        ofOffset text offset file := ofOffset_take_append inside more
    have row : (ofOffset text offset file).line = rank + 1 := congrArg Span.line place
    have column : (ofOffset text offset file).column = width + 1 := congrArg Span.column place
    exact ⟨rank, line, found, row, by omega, by omega, by omega, by omega, by omega, settled⟩
  · exact ⟨_, ofOffset_startOf found inside file⟩
  · rcases Nat.lt_or_gt_of_ne apart with before | behind
    · exact (precedes_of_lt before within).apart
    · exact fun ⟨sameLine, sameColumn⟩ =>
        (precedes_of_lt behind inside).apart ⟨sameLine.symm, sameColumn.symm⟩
  · exact precedes_of_lt before inside

/-- A text with an empty line, and without a line feed at its end. -/
def gappedLines : List Char := "ab\n\nc".toList

theorem offsets_match_places_gappedLines :
    (3 ≤ gappedLines.length ∧ ∃ (rank : Nat) (line : List Char), (lines gappedLines)[rank]? = some line ∧
      (ofOffset gappedLines 3 "").line = rank + 1 ∧
      3 = startOf gappedLines rank + (ofOffset gappedLines 3 "").column - 1) ∧
    (∃ offset : Nat, offset ≤ gappedLines.length ∧
      ofOffset gappedLines offset "" = { file := "", line := 3, column := 2 }) ∧
    5 ≤ gappedLines.length ∧ (ofOffset gappedLines 3 "").Precedes (ofOffset gappedLines 5 "") := by
  obtain ⟨placed, reached, _, ordered⟩ := offsets_match_places gappedLines ""
  obtain ⟨rank, line, found, onLine, _, _, _, _, sum, _⟩ := placed 3 (by decide)
  exact ⟨⟨by decide, rank, line, found, onLine, sum⟩, reached 2 ['c'] 1 (by decide) (by decide),
    by decide, ordered 3 5 (by decide) (by decide)⟩

end SchemeTyping.Span
