import SchemeTyping.Proofs.AnalysisUnit.Statements

/-! The spellings of the parts of a reference declaration: kinds, sets of qualifiers, options. -/
namespace SchemeTyping.AnalysisUnit
open Peg Grammar

/-- The kind of an adapted reference, over a method or not. -/
def adaptedKind : Bool → String → Kind String
  | true, identifier => .methodAdapt identifier
  | false, identifier => .adapt identifier

/-- The kinds that adapt nothing. -/
abbrev SimpleKind := { kind : Kind String // kind.declaration? = none }

theorem worded_adapted :
    Worded (fun method => (adaptedKind method "").flavour.label) "method_adapt" ["adapt"] where
  some := by decide
  apart := by decide
  known := by decide
  listed := by decide
  onto := by decide

theorem worded_simple : Worded (fun kind : SimpleKind => kind.val.flavour.label) "variable"
    ["parameter", "equal_null", "other"] where
  some := by decide
  apart := by decide
  known := by decide
  listed := by
    rintro ⟨kind, plain⟩
    show kind.flavour.label ∈ ["variable", "parameter", "equal_null", "other"]
    cases kind with
    | adapt _ => cases plain
    | methodAdapt _ => cases plain
    | _ => decide
  onto word member := by
    simp only [List.mem_cons, List.not_mem_nil, or_false] at member
    rcases member with rfl | rfl | rfl | rfl
    · exact ⟨⟨.variable, rfl⟩, rfl⟩
    · exact ⟨⟨.parameter, rfl⟩, rfl⟩
    · exact ⟨⟨.equalNull, rfl⟩, rfl⟩
    · exact ⟨⟨.other, rfl⟩, rfl⟩

theorem ofLabel?_label (flavour : Flavour) : Flavour.ofLabel? flavour.label = some flavour := by
  cases flavour <;> decide

theorem spells_adaptKind :
    Spells adaptKind
      (fun (value : Bool × String) => Below .refKind Read.kind? (adaptedKind value.1 value.2))
      (fun value => kindLexemes (adaptedKind value.1 value.2)) Free := by
  have body := (spells_namedWords worded_adapted .adaptWord).andThen
    ((spells_mark "(" (by decide)).andThen
      (spells_identifier.both (spells_mark ")" (by decide)) fun laid _ =>
        laid.follows (noIdentifier_of_chars (by decide) (by decide))))
  refine (body.assoc.named .adaptKind).map
    (fun ⟨method, _, identifier, _⟩ => (method, identifier)) ?_ ?_
    (fun value => ⟨(value.1, (), value.2, ()), rfl⟩) id
  · rintro ⟨method, _, identifier, _⟩ trees ⟨start, stop, inner, rfl, _, _, rfl, ⟨_, _, rfl⟩, _, _,
      rfl, rfl, _, _, rfl, ⟨tree, rfl, seen⟩, rfl⟩ _ _
    cases method with
    | true => simp [Read.kind?, ofLabel?_label, seen, adaptedKind, Kind.flavour]
    | false => simp [Read.kind?, ofLabel?_label, seen, adaptedKind, Kind.flavour]
  · rintro ⟨method, _, identifier, _⟩
    cases method with
    | true => rfl
    | false => rfl

theorem spells_simpleKind :
    Spells simpleKind (fun (kind : SimpleKind) => Below .refKind Read.kind? kind.val)
      (fun kind => kindLexemes kind.val) Free := by
  refine ((spells_words worded_simple).named .simpleKind).map id ?_ ?_ (fun kind => ⟨kind, rfl⟩) id
  · rintro ⟨kind, plain⟩ trees ⟨start, stop, inner, rfl, rfl⟩ _ _
    cases kind with
    | adapt _ => cases plain
    | methodAdapt _ => cases plain
    | _ => simp [Read.kind?, ofLabel?_label, Kind.flavour]
  · rintro ⟨kind, plain⟩
    simp only [kindLexemes, plain, id]

theorem spells_refKind : Spells refKind (Reads Read.kind?) kindLexemes Free := by
  let kind : (Bool × String) ⊕ SimpleKind → Kind String :=
    Sum.elim (fun value => adaptedKind value.1 value.2) Subtype.val
  have body : Spells (.either adaptKind simpleKind)
      (fun value => Below .refKind Read.kind? (kind value)) (fun value => kindLexemes (kind value)) _ :=
    spells_adaptKind.either spells_simpleKind fun {value} _ _ _ laid => by
      obtain ⟨made, plain⟩ := value
      rw [laid.begins_eq]
      show adaptKind.begins made.flavour.label.toList.head? = false
      cases made with
      | adapt _ => cases plain
      | methodAdapt _ => cases plain
      | _ => decide
  refine Spells.reads (body.map kind id (fun _ => rfl) ?_ fun _ => ⟨trivial, trivial⟩)
  intro made
  cases plain : made.declaration? with
  | none => exact ⟨.inr ⟨made, plain⟩, rfl⟩
  | some viewed =>
    cases made with
    | adapt identifier => exact ⟨.inl (false, identifier), rfl⟩
    | methodAdapt identifier => exact ⟨.inl (true, identifier), rfl⟩
    | _ => cases plain

theorem spells_qualSet :
    Spells qualSet
      (fun mentions trees => ∃ tree, trees = [tree] ∧ Read.qualifierSet tree = mentions)
      setLexemes Free := by
  have body := (spells_mark "\x7b" (by decide)).andThen
    (spells_qualList.optional.both (spells_mark "\x7d" (by decide)) fun laid _ =>
      ⟨laid.follows rfl, (laid.begins_eq _).trans (by decide)⟩)
  refine (body.named .qualSet).map
    (fun value => value.2.1.elim [] fun list => list.1 :: list.2) ?_ ?_ ?_ id
  · rintro ⟨_, list, _⟩ trees ⟨start, stop, inner, rfl, _, _, rfl, rfl, _, _, rfl, seen, rfl⟩
    refine ⟨_, rfl, ?_⟩
    cases list with
    | none =>
      cases seen
      rfl
    | some list =>
      obtain ⟨tree, rfl, seen⟩ := seen
      simp [Read.qualifierSet, seen]
  · rintro ⟨_, list, _⟩
    cases list with
    | none => rfl
    | some list => rfl
  · intro mentions
    cases mentions with
    | nil => exact ⟨((), none, ()), rfl⟩
    | cons first others => exact ⟨((), some (first, others), ()), rfl⟩

theorem OptionDeclaration.lexemes_ne_nil (option : OptionDeclaration) : option.lexemes ≠ [] := by
  obtain ⟨key, value, offset⟩ := option
  cases key with
  | crypt => simp [OptionDeclaration.lexemes]
  | name => simp [OptionDeclaration.lexemes]
  | element => simp [OptionDeclaration.lexemes]

theorem spells_cryptOption :
    Spells cryptOption
      (fun (mention : Mention) => Below .refOption Read.option? ⟨.crypt, mention.name, mention.offset⟩)
      (fun mention => OptionDeclaration.lexemes ⟨.crypt, mention.name, mention.offset⟩) Free := by
  have body := (spells_keyword .kwCrypt "crypt" (by decide)).andThen spells_qualifier
  refine (body.assoc.named .cryptOption).map Prod.snd ?_ (fun _ => rfl)
    (fun mention => ⟨((), mention), rfl⟩) id
  rintro ⟨_, mention⟩ trees ⟨start, stop, inner, rfl, _, _, rfl, ⟨word, rfl⟩, tree, rfl, seen⟩ _ _
  simp [Read.option?, seen]

theorem spells_nameOption :
    Spells nameOption
      (fun (value : Nat × String) => Below .refOption Read.option? ⟨.name, value.2, value.1⟩)
      (fun value => OptionDeclaration.lexemes ⟨.name, value.2, value.1⟩) Free := by
  have body := (spells_keyword .kwName "name" (by decide)).andThen spells_string
  refine (body.assoc.placed .nameOption fun _ => ⟨.keyword "name", _, rfl⟩).map
    (fun value => (value.1, value.2.2)) ?_ (fun _ => rfl)
    (fun value => ⟨(value.1, (), value.2), rfl⟩) id
  rintro ⟨offset, _, text⟩ trees ⟨stop, inner, rfl, _, _, rfl, ⟨word, rfl⟩, tree, rfl, seen⟩ _ _
  simp [Read.option?, seen]

theorem spells_elementOption :
    Spells elementOption
      (fun (value : Nat × String) => Below .refOption Read.option? ⟨.element, value.2, value.1⟩)
      (fun value => OptionDeclaration.lexemes ⟨.element, value.2, value.1⟩) NoIdentifier := by
  have body := (spells_keyword .kwElement "element" (by decide)).andThen spells_identifier
  refine (body.assoc.placed .elementOption fun _ => ⟨.keyword "element", _, rfl⟩).map
    (fun value => (value.1, value.2.2)) ?_ (fun _ => rfl)
    (fun value => ⟨(value.1, (), value.2), rfl⟩) id
  rintro ⟨offset, _, element⟩ trees ⟨stop, inner, rfl, _, _, rfl, ⟨word, rfl⟩, tree, rfl, seen⟩ _ _
  simp [Read.option?, seen]

theorem spells_refOption :
    Spells refOption (Reads Read.option?) OptionDeclaration.lexemes NoIdentifier := by
  let make : Mention ⊕ (Nat × String) ⊕ (Nat × String) → OptionDeclaration :=
    Sum.elim (fun mention => ⟨.crypt, mention.name, mention.offset⟩)
      (Sum.elim (fun value => ⟨.name, value.2, value.1⟩) fun value => ⟨.element, value.2, value.1⟩)
  have onto : ∀ option, ∃ value, make value = option := by
    rintro ⟨key, value, offset⟩
    cases key with
    | crypt => exact ⟨.inl ⟨value, offset⟩, rfl⟩
    | name => exact ⟨.inr (.inl (offset, value)), rfl⟩
    | element => exact ⟨.inr (.inr (offset, value)), rfl⟩
  have body : Spells (.either cryptOption (.either nameOption elementOption))
      (Below .refOption Read.option?) OptionDeclaration.lexemes _ :=
    Spells.choice make onto spells_cryptOption spells_nameOption spells_elementOption
      (fun laid => (laid.begins_eq _).trans (by decide))
      fun laid => ⟨(laid.begins_eq _).trans (by decide), (laid.begins_eq _).trans (by decide)⟩
  exact Spells.reads (body.shown id fun silent => ⟨trivial, trivial, silent⟩)

end SchemeTyping.AnalysisUnit
