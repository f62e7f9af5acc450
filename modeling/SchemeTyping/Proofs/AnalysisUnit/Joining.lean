import SchemeTyping.Proofs.AnalysisUnit.Offsets

/-! Joining texts with a line feed. The line feed is layout and ends a comment, so that the items of both
texts are laid out in the joined text, those of the second one further on. -/
namespace SchemeTyping.AnalysisUnit
variable {ends allowed : Prop} {gap more text rest taken : List Char} {start : Nat} {lexemes : List Lexeme}

/-- A line feed joins layout, whatever ends before it. -/
theorem Layout.join (layout : Layout ends gap) (later : Layout allowed more) :
    Layout allowed (gap ++ '\n' :: more) := by
  induction layout with
  | nothing => exact .blank (by decide) later
  | blank white _ ih => exact .blank white ih
  | @comment line behind oneLine _ ih =>
    rw [List.append_assoc, List.cons_append]
    exact .comment oneLine ih
  | last oneLine _ => exact .comment oneLine later

/-- The last token takes up more layout, if a line feed begins it. -/
theorem Laid.join (laid : Laid [] start lexemes taken) (some : lexemes ≠ [])
    (later : Layout (rest = []) more) : Laid rest start lexemes (taken ++ '\n' :: more) := by
  induction laid with
  | done => exact absurd rfl some
  | @next start lexeme lexemes gap behind valid placed gapped apart further ih =>
    cases lexemes with
    | nil =>
      cases further with
      | done =>
        have last : Laid rest start [lexeme] (lexeme.token.chars ++ (gap ++ '\n' :: more) ++ []) :=
          .next valid placed (gapped.join later) (fun _ bare => absurd bare (by simp)) .done
        simpa using last
    | cons second lexemes =>
      -- A token stands behind the gap, so what follows all tokens does not show there.
      obtain ⟨char, others, rfl⟩ := List.exists_cons_of_ne_nil (further.ne_nil (by simp))
      rw [List.append_assoc]
      refine .next valid placed (gapped.mono (by simp)) (fun runs bare => ?_) (ih (by simp))
      simpa using apart runs bare

/-- Items are laid out in a joined text if those before the line feed are laid out in the first text and
those behind it in the second. -/
theorem LaidOut.join {items others : List Item} (laid : LaidOut items text) (later : LaidOut others more) :
    LaidOut (items ++ others.map (Item.move (text.length + 1))) (text ++ '\n' :: more) := by
  obtain ⟨lead, body, rfl, gapped, laid⟩ := laid
  obtain ⟨front, back, rfl, opened, later⟩ := later
  have moved : (others.map (Item.move ((lead ++ body).length + 1))).flatMap Item.lexemes =
      (others.flatMap Item.lexemes).map (Lexeme.move ((lead ++ body).length + 1)) := by
    simp only [List.flatMap_map, List.map_flatMap, Item.lexemes_move]
  have further : Laid [] (front.length + ((lead ++ body).length + 1)) _ back := later.move
  rw [← moved] at further
  cases items with
  | nil =>
    cases laid with
    | done =>
      refine ⟨lead ++ '\n' :: front, back, by simp, gapped.join opened, ?_⟩
      have behind : front.length + ((lead ++ []).length + 1) = (lead ++ '\n' :: front).length := by
        simp only [List.length_append, List.length_cons, List.length_nil]
        omega
      exact behind ▸ further
  | cons item items =>
    have some : (item :: items).flatMap Item.lexemes ≠ [] := by
      simp [Item.lexemes_ne_nil]
    refine ⟨lead, body ++ '\n' :: front ++ back, by simp, ?_, ?_⟩
    · exact gapped.mono fun bare => absurd bare (laid.ne_nil some)
    · rw [List.flatMap_append]
      refine Laid.append.mpr ⟨body ++ '\n' :: front, back, rfl, ?_, ?_⟩
      · exact laid.join some (by simpa using opened)
      · have behind : front.length + ((lead ++ body).length + 1) =
            lead.length + (body ++ '\n' :: front).length := by
          simp only [List.length_append, List.length_cons]
          omega
        exact behind ▸ further

/-- Texts that are read may be joined with a line feed: the declarations of the first one come first, and
those of the second one stand further on. -/
theorem parse_join {declarations others : List Declaration} (parsed : parse text = .ok declarations)
    (later : parse more = .ok others) : parse (text ++ '\n' :: more) =
      .ok (declarations ++ others.map (Declaration.move (text.length + 1))) := by
  obtain ⟨items, ⟨laid, bounded⟩, rfl⟩ := ((parse_renders text).1 _).mp parsed
  obtain ⟨further, ⟨laidLater, boundedLater⟩, rfl⟩ := ((parse_renders more).1 _).mp later
  refine ((parse_renders _).1 _).mpr ⟨_, ⟨laid.join laidLater, fun written member => ?_⟩, ?_⟩
  · rcases List.mem_append.mp member with before | behind
    · exact bounded written before
    · exact bounded_move boundedLater written behind
  · simp only [List.map_append, List.map_map, Function.comp_def, Item.declaration_move]

end SchemeTyping.AnalysisUnit
