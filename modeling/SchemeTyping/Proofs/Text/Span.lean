import SchemeTyping.Text.Span

/-! Places, told from the text before them: whole lines, and a part of the next line. -/
namespace SchemeTyping.Span
variable {text before more : List Char} {offset : Nat} {file : String}

/-- The place right behind a text: behind whole lines, which end with a line feed, and a part of the next
line, which holds none. -/
def Behind (span : Span) (before : List Char) (file : String) : Prop :=
  ∃ above line, before = above ++ line ∧ (∀ last ∈ above.getLast?, last = '\n') ∧ '\n' ∉ line ∧
    span = { file, line := above.count '\n' + 1, column := line.length + 1 }

theorem charsBefore_natCast : charsBefore text offset = min offset text.length := by
  simp [charsBefore]

theorem charsBefore_of_le (inside : offset ≤ text.length) : charsBefore text offset = offset := by
  rw [charsBefore_natCast, Nat.min_eq_left inside]

/-- The characters before a place inside a text do not depend on how the text goes on. -/
theorem take_charsBefore_append (inside : offset ≤ text.length) :
    (text ++ more).take (charsBefore (text ++ more) offset) = text.take (charsBefore text offset) := by
  have further : offset ≤ (text ++ more).length := by
    rw [List.length_append]
    omega
  rw [charsBefore_of_le inside, charsBefore_of_le further, List.take_append_of_le_length inside]

/-- A place inside a text stays where it is if the text goes on. -/
theorem ofOffset_append (inside : offset ≤ text.length) :
    ofOffset (text ++ more) offset file = ofOffset text offset file := by
  unfold ofOffset
  rw [take_charsBefore_append inside]

/-- A place behind a further line feed is on a later line. -/
theorem line_ofOffset_lt (beyond : text.length < offset) :
    (ofOffset text text.length file).line < (ofOffset (text ++ '\n' :: more) offset file).line := by
  have before : text.take (charsBefore text text.length) = text := by
    rw [charsBefore_of_le (Nat.le_refl _), List.take_length]
  have through : text ++ ['\n'] <+: (text ++ '\n' :: more).take
      (charsBefore (text ++ '\n' :: more) offset) := by
    refine List.prefix_take_iff.mpr ⟨⟨more, by simp⟩, ?_⟩
    rw [charsBefore_natCast]
    simp only [List.length_append, List.length_cons, List.length_nil]
    omega
  have counted := through.sublist.count_le '\n'
  rw [List.count_append, List.count_singleton_self] at counted
  simp only [ofOffset, before]
  omega

/-- Every text is whole lines and a part of the next. -/
theorem lineStart_spec (before : List Char) : ∃ above line, before = above ++ line ∧
    (∀ last ∈ above.getLast?, last = '\n') ∧ '\n' ∉ line ∧ lineStart before = above.length := by
  have parts : before = (before.reverse.dropWhile (· != '\n')).reverse ++
      (before.reverse.takeWhile (· != '\n')).reverse := by
    rw [← List.reverse_append, List.takeWhile_append_dropWhile, List.reverse_reverse]
  refine ⟨_, _, parts, ?_, ?_, ?_⟩
  · intro last ends
    rw [List.getLast?_reverse] at ends
    have stopped := List.head?_dropWhile_not (· != '\n') before.reverse
    rw [Option.mem_def.mp ends] at stopped
    simpa using stopped
  · rw [List.mem_reverse]
    intro inside
    have plain := List.all_eq_true.mp List.all_takeWhile _ inside
    simp at plain
  · have line : (before.reverse.takeWhile (· != '\n')).reverse.length =
        (before.reverse.takeWhile (· != '\n')).length := List.length_reverse
    have lengths := congrArg List.length parts
    rw [List.length_append, line] at lengths
    unfold lineStart
    omega

/-- The place of an offset is the one behind the text before it. -/
theorem behind_ofOffset (inside : offset ≤ text.length) :
    (ofOffset text offset file).Behind (text.take offset) file := by
  obtain ⟨above, line, parts, closed, plain, start⟩ := lineStart_spec (text.take offset)
  refine ⟨above, line, parts, closed, plain, ?_⟩
  have lines : (text.take offset).count '\n' = above.count '\n' := by
    rw [parts, List.count_append, List.count_eq_zero.mpr plain, Nat.add_zero]
  have width : offset = above.length + line.length := by
    rw [← List.length_append, ← parts, List.length_take_of_le inside]
  have column : (offset : Int) - above.length + 1 = line.length + 1 := by omega
  simp only [ofOffset, charsBefore_of_le inside, start, lines, column]

/-- On the first line the column counts all characters before a place. -/
theorem Behind.column_eq {span : Span} (behind : span.Behind before file) (first : span.line = 1) :
    span.column = before.length + 1 := by
  obtain ⟨above, line, rfl, closed, _, rfl⟩ := behind
  have none : above = [] := by
    cases ends : above.getLast? with
    | none => exact List.getLast?_eq_none_iff.mp ends
    | some last =>
      have counted := List.count_pos_iff.mpr (closed last ends ▸ List.mem_of_getLast? ends)
      dsimp only at first
      omega
  rw [none, List.nil_append]

end SchemeTyping.Span
