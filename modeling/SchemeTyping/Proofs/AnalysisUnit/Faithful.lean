import Mathlib.Data.List.Forall2
import Mathlib.Data.List.Induction
import SchemeTyping.Proofs.AnalysisUnit.Binding

/-! What a reference declaration is bound to: the identifier, the kind, the options and the listed
qualifiers that are written, and an adapted view of a reference that stands before it. -/
namespace SchemeTyping

namespace Kind
variable {Declaration Found Fault : Type} {find : Declaration → Except Fault Found}

/-- Binding keeps the flavour of a kind and finds the declaration that it views. -/
theorem bind_eq_ok {kind : Kind Declaration} {result : Kind Found} (bound : kind.bind find = .ok result) :
    result.flavour = kind.flavour ∧
      List.Forall₂ (fun declaration found => find declaration = .ok found)
        kind.declaration?.toList result.declaration?.toList := by
  cases kind with
  | adapt declaration =>
    obtain ⟨found, known, rfl⟩ := Outcome.map_eq_ok.mp bound
    exact ⟨rfl, .cons known .nil⟩
  | methodAdapt declaration =>
    obtain ⟨found, known, rfl⟩ := Outcome.map_eq_ok.mp bound
    exact ⟨rfl, .cons known .nil⟩
  | _ =>
    obtain rfl := Except.ok.inj bound
    exact ⟨rfl, .nil⟩

theorem bind_isOk_iff {kind : Kind Declaration} : (∃ result, kind.bind find = .ok result) ↔
    ∀ declaration ∈ kind.declaration?, ∃ found, find declaration = .ok found := by
  cases kind with
  | adapt declaration => simp [Kind.bind, declaration?, Outcome.map_eq_ok]
  | methodAdapt declaration => simp [Kind.bind, declaration?, Outcome.map_eq_ok]
  | _ => simp [Kind.bind, declaration?]

end Kind

namespace AnalysisUnit
variable {hierarchy : Hierarchy} {identifier : String}

theorem mention_bind_isOk_iff {mention : Mention} :
    (∃ qualifier, mention.bind hierarchy = .ok qualifier) ↔ mention.name ∈ hierarchy.names := by
  constructor
  · rintro ⟨qualifier, found⟩
    obtain ⟨member, own⟩ := mention_bind_eq_ok found
    exact List.mem_map.mpr ⟨qualifier, member, own⟩
  · intro ranked
    obtain ⟨qualifier, member, own⟩ := List.mem_map.mp ranked
    have present : (hierarchy.find? mention.name).isSome = true :=
      List.find?_isSome.mpr ⟨qualifier, member, by simpa using own⟩
    obtain ⟨found, known⟩ := Option.isSome_iff_exists.mp present
    exact ⟨found, by simp [Mention.bind, known]⟩

theorem bindMentions_isOk_iff {mentions : List Mention} :
    (∃ qualifiers, bindMentions hierarchy mentions = .ok qualifiers) ↔
      ∀ mention ∈ mentions, mention.name ∈ hierarchy.names := by
  induction mentions with
  | nil => simp [bindMentions]
  | cons mention rest ih =>
    rw [List.forall_mem_cons, ← ih, ← mention_bind_isOk_iff]
    simp only [bindMentions]
    cases mention.bind hierarchy with
    | error fault => simp
    | ok qualifier => simp [Outcome.map_eq_ok]

/-- The value that options give to a key: that of the first option on it. -/
def valueOf? (options : List OptionDeclaration) (key : OptionKey) : Option String :=
  (options.find? fun option => option.key == key).map OptionDeclaration.value

theorem valueOf?_cons (option : OptionDeclaration) (rest : List OptionDeclaration) (key : OptionKey) :
    valueOf? (option :: rest) key =
      if option.key = key then some option.value else valueOf? rest key := by
  unfold valueOf?
  by_cases same : option.key = key
  · simp [same]
  · have apart : (option.key == key) = false := beq_false_of_ne same
    simp [same, apart]

namespace Options

/-- The value of a key, for a scheme its name. -/
def value? (options : Options) : OptionKey → Option String
  | .crypt => options.crypt.map Qualifier.name
  | .name => options.name
  | .element => options.element

theorem isGiven_eq (options : Options) (key : OptionKey) :
    options.isGiven key = (options.value? key).isSome := by
  cases key with
  | crypt => simp [isGiven, value?]
  | name => rfl
  | element => rfl

/-- Options with one more, on a key that is not given. -/
def enter (hierarchy : Hierarchy) (options : Options) (option : OptionDeclaration) :
    Except Located Options :=
  match option.key with
  | .name => .ok { options with name := some option.value }
  | .element => .ok { options with element := some option.value }
  | .crypt => (Mention.bind hierarchy ⟨option.value, option.offset⟩).map fun qualifier =>
      { options with crypt := some qualifier }

/-- Only a scheme has to be ranked. -/
theorem enter_isOk_iff {options : Options} {option : OptionDeclaration} :
    (∃ next, options.enter hierarchy option = .ok next) ↔
      (option.key = .crypt → option.value ∈ hierarchy.names) := by
  unfold enter
  cases option.key with
  | name => simp
  | element => simp
  | crypt =>
    have ranked : (∃ qualifier, Mention.bind hierarchy ⟨option.value, option.offset⟩ = .ok qualifier) ↔
        option.value ∈ hierarchy.names := mention_bind_isOk_iff
    simpa [Outcome.map_eq_ok] using ranked

/-- An option that is entered sets its own key and no other. -/
theorem enter_eq_ok {options next : Options} {option : OptionDeclaration}
    (entered : options.enter hierarchy option = .ok next) :
    (∀ key, next.value? key = if key = option.key then some option.value else options.value? key) ∧
      ∀ qualifier ∈ next.crypt, qualifier ∈ options.crypt ∨ qualifier ∈ hierarchy.order := by
  obtain ⟨key, value, offset⟩ := option
  cases key with
  | name =>
    obtain rfl := Except.ok.inj entered
    refine ⟨fun key => ?_, fun qualifier held => .inl held⟩
    cases key <;> rfl
  | element =>
    obtain rfl := Except.ok.inj entered
    refine ⟨fun key => ?_, fun qualifier held => .inl held⟩
    cases key <;> rfl
  | crypt =>
    obtain ⟨qualifier, found, rfl⟩ := Outcome.map_eq_ok.mp entered
    obtain ⟨member, own⟩ := mention_bind_eq_ok found
    refine ⟨fun key => ?_, fun other held => .inr ?_⟩
    · cases key with
      | crypt => exact congrArg some own
      | name => rfl
      | element => rfl
    · obtain rfl := Option.some.inj held
      exact member

end Options

section Options
variable {options result : Options} {option : OptionDeclaration} {rest : List OptionDeclaration}

theorem bindOptions_cons : bindOptions hierarchy identifier options (option :: rest) =
    if options.isGiven option.key then .error ⟨.optionTwice option.key identifier, option.offset⟩
    else
      match options.enter hierarchy option with
      | .error fault => .error fault
      | .ok next => bindOptions hierarchy identifier next rest := by
  rw [bindOptions]
  unfold Options.enter
  cases option.key with
  | name => rfl
  | element => rfl
  | crypt => cases Mention.bind hierarchy ⟨option.value, option.offset⟩ <;> rfl

/-- Every key has the value that was held for it, or else the one that is written. -/
theorem bindOptions_eq_ok (bound : bindOptions hierarchy identifier options rest = .ok result) :
    (∀ key, result.value? key = (options.value? key).or (valueOf? rest key)) ∧
      ∀ qualifier ∈ result.crypt, qualifier ∈ options.crypt ∨ qualifier ∈ hierarchy.order := by
  induction rest generalizing options with
  | nil =>
    obtain rfl := Except.ok.inj bound
    exact ⟨fun key => by simp [valueOf?], fun qualifier held => .inl held⟩
  | cons option rest ih =>
    rw [bindOptions_cons] at bound
    split at bound
    · cases bound
    · next free =>
      split at bound
      · cases bound
      · next next entered =>
        obtain ⟨values, ranked⟩ := Options.enter_eq_ok entered
        obtain ⟨later, laterRanked⟩ := ih bound
        refine ⟨fun key => ?_, fun qualifier held => ?_⟩
        · rw [later, values, valueOf?_cons]
          by_cases same : key = option.key
          · subst same
            have unset : options.value? option.key = none := by
              simpa [Options.isGiven_eq] using free
            simp [unset]
          · rw [if_neg same, if_neg (Ne.symm same)]
        · rcases laterRanked qualifier held with before | member
          · exact ranked qualifier before
          · exact .inr member

/-- Options can be taken up if each key is given once and every scheme is ranked. -/
theorem bindOptions_isOk_iff :
    (∃ result, bindOptions hierarchy identifier options rest = .ok result) ↔
      (∀ option ∈ rest, options.value? option.key = none) ∧
        (rest.map OptionDeclaration.key).Nodup ∧
        ∀ option ∈ rest, option.key = .crypt → option.value ∈ hierarchy.names := by
  induction rest generalizing options with
  | nil => simp [bindOptions]
  | cons option rest ih =>
    have enters : (∃ next, options.enter hierarchy option = .ok next) ↔
        (option.key = .crypt → option.value ∈ hierarchy.names) := Options.enter_isOk_iff
    rw [bindOptions_cons, List.forall_mem_cons, List.forall_mem_cons, List.map_cons,
      List.nodup_cons, ← enters]
    by_cases given : options.isGiven option.key = true
    · have set : options.value? option.key ≠ none := by
        simpa [Options.isGiven_eq, Option.isSome_iff_ne_none] using given
      simp [given, set]
    · have unset : options.value? option.key = none := by
        simpa [Options.isGiven_eq] using given
      cases entered : options.enter hierarchy option with
      | error fault => simp [given]
      | ok next =>
        have values := (Options.enter_eq_ok entered).1
        -- A later option is on a key that is free now exactly if it is on another key than this one.
        have free : (∀ other ∈ rest, next.value? other.key = none) ↔
            option.key ∉ rest.map OptionDeclaration.key ∧
              ∀ other ∈ rest, options.value? other.key = none := by
          simp only [values, List.mem_map, not_exists, not_and, ← forall_and]
          refine forall₂_congr fun other _ => ?_
          by_cases same : other.key = option.key
          · simp [same, unset]
          · simp [same]
        rw [if_neg given, ih, free]
        simp only [unset, Except.ok.injEq, exists_eq', true_and]
        tauto

end Options

namespace ReferenceDeclaration

/-- The element that a declaration of a variable or a parameter owns: the one that is given, or else
that of its identifier. -/
def ownedElement? (declaration : ReferenceDeclaration) : Option String :=
  if declaration.kind.isDeclaration then
    some ((valueOf? declaration.options .element).getD declaration.identifier)
  else none

/-- The name by which a reference is shown: the one that is given unless it is empty, or else its
identifier. -/
def shownName (declaration : ReferenceDeclaration) : String :=
  ((valueOf? declaration.options .name).filter (· ≠ "")).getD declaration.identifier

/-- A reference and its first profile, as a declaration describes them. -/
structure Describes (hierarchy : Hierarchy) (declaration : ReferenceDeclaration)
    (reference : Reference) (profile : Profile) : Prop where
  identifier : reference.identifier = declaration.identifier
  flavour : reference.kind.flavour = declaration.kind.flavour
  viewed : reference.kind.declaration?.map Entity.identifier = declaration.kind.declaration?
  element : reference.element = (valueOf? declaration.options .element).or
    (if declaration.kind.isDeclaration then some declaration.identifier else none)
  name : profile.name = declaration.shownName
  candidates : ∀ name, name ∈ profile.candidates.members.map Qualifier.name ↔
    name ∈ declaration.qualifiers.map Mention.name
  explicit : profile.explicit.map Qualifier.name = valueOf? declaration.options .crypt
  ranked : ∀ qualifier, qualifier ∈ profile.candidates.members ∨ qualifier ∈ profile.explicit →
    qualifier ∈ hierarchy.order
  unresolved : profile.resolved = none

variable {declaration : ReferenceDeclaration} {reference : Reference} {profile : Profile}
  {store : Store}

theorem bindTarget_eq_ok {offset : Nat} {entity : Entity} :
    bindTarget store offset identifier = .ok entity ↔
      ∃ viewed, store.find? identifier = some viewed ∧ viewed.entity = entity := by
  unfold bindTarget
  cases store.find? identifier with
  | none => simp
  | some viewed => simp

theorem describes_of_bind (bound : declaration.bind hierarchy store = .ok (reference, profile)) :
    declaration.Describes hierarchy reference profile := by
  obtain ⟨_, kind, options, candidates, ofKind, ofOptions, ofMentions, rfl, rfl⟩ :=
    reference_bind_eq_ok.mp bound
  obtain ⟨flavour, viewed⟩ := Kind.bind_eq_ok ofKind
  obtain ⟨values, schemes⟩ := bindOptions_eq_ok ofOptions
  obtain ⟨names, ranked⟩ := bindMentions_eq_ok ofMentions
  have given : ∀ key, options.value? key = valueOf? declaration.options key := by
    intro key
    rw [values]
    cases key <;> rfl
  constructor
  · rfl
  · exact flavour
  · show kind.declaration?.map Entity.identifier = declaration.kind.declaration?
    cases target : declaration.kind.declaration? with
    | none =>
      cases found : kind.declaration? with
      | none => rfl
      | some entity => simp [target, found] at viewed
    | some identifier =>
      cases found : kind.declaration? with
      | none => simp [target, found] at viewed
      | some entity =>
        simp only [target, found, Option.toList_some, List.forall₂_cons, List.forall₂_nil_left_iff,
          and_true, bindTarget_eq_ok] at viewed
        obtain ⟨other, known, rfl⟩ := viewed
        exact congrArg some (Store.find?_eq_some known).2
  · show options.element.or _ = _
    have own := given .element
    simp only [Options.value?] at own
    rw [own, Kind.isDeclaration, Kind.isDeclaration, flavour]
  · show (if options.name.getD "" = "" then declaration.identifier else options.name.getD "") =
      declaration.shownName
    have own := given .name
    simp only [Options.value?] at own
    rw [own, shownName]
    cases valueOf? declaration.options .name with
    | none => rfl
    | some text => by_cases empty : text = "" <;> simp [empty, Option.filter]
  · intro name
    rw [← names]
    exact Candidates.mem_names_ofList
  · exact given .crypt
  · rintro qualifier (listed | explicit)
    · exact ranked qualifier (Candidates.mem_of_mem_ofList listed)
    · exact (schemes qualifier explicit).resolve_left (by simp)
  · rfl

/-- A described reference owns the element that its declaration owns. -/
theorem Describes.ownedElement (describes : declaration.Describes hierarchy reference profile) :
    reference.declaredElement? = declaration.ownedElement? := by
  unfold Reference.declaredElement? ownedElement?
  rw [describes.element, Kind.isDeclaration, Kind.isDeclaration, describes.flavour]
  split
  · cases valueOf? declaration.options .element <;> rfl
  · rfl

end ReferenceDeclaration

namespace Bound
variable {declarations rest : List Declaration} {declaration : Declaration} {bound next : Bound}

/-- References stand in the order of their declarations, each as it is declared. -/
theorem Reflects.described (reflects : Reflects hierarchy declarations bound) :
    List.Forall₂ (fun declaration reference =>
        declaration.Describes hierarchy reference (bound.typing.profile reference))
      (declaredReferences declarations) bound.store.references := by
  have same : List.Forall₂ (fun declaration reference =>
      ReferenceDeclaration.identifier declaration = Reference.identifier reference)
      (declaredReferences declarations) bound.store.references := by
    rw [← List.forall₂_map_left_iff (R := fun identifier reference =>
        identifier = Reference.identifier reference),
      ← List.forall₂_map_right_iff (R := Eq), List.forall₂_eq_eq_eq]
    exact reflects.identifiers.symm
  obtain ⟨length, paired⟩ := List.forall₂_iff_zip.mp same
  refine List.forall₂_iff_zip.mpr ⟨length, fun {declaration reference} member => ?_⟩
  obtain ⟨declared, listed⟩ := List.of_mem_zip member
  obtain ⟨other, earlier, found, bind⟩ := reflects.references declaration declared
  rw [paired member, Store.find?_of_mem listed] at found
  obtain rfl := Option.some.inj found
  exact ReferenceDeclaration.describes_of_bind bind

/-- Taking up one more declaration is the last step of taking up all of them. -/
theorem addAll_snoc : Bound.addAll hierarchy bound (rest ++ [declaration]) = (next, none) ↔
    ∃ middle, Bound.addAll hierarchy bound rest = (middle, none) ∧
      middle.add hierarchy declaration = .ok next := by
  induction rest generalizing bound with
  | nil =>
    cases added : bound.add hierarchy declaration with
    | error fault => simp [Bound.addAll, added]
    | ok middle => simp [Bound.addAll, added]
  | cons first rest ih =>
    rw [List.cons_append]
    unfold Bound.addAll
    cases bound.add hierarchy first with
    | error fault => simp
    | ok middle => exact ih

/-- What holds of nothing, and after a declaration if it held before it, holds of all that is bound. -/
theorem addAll_induction {motive : List Declaration → Bound → Prop} (nil : motive [] {})
    (snoc : ∀ declarations declaration bound next, motive declarations bound →
      bound.add hierarchy declaration = .ok next → motive (declarations ++ [declaration]) next)
    (added : Bound.addAll hierarchy {} declarations = (bound, none)) :
    motive declarations bound := by
  induction declarations using List.reverseRecOn generalizing bound with
  | nil =>
    obtain rfl := (Prod.mk.inj added).1
    exact nil
  | append_singleton declarations declaration ih =>
    obtain ⟨middle, before, last⟩ := addAll_snoc.mp added
    exact snoc declarations declaration middle bound (ih before) last

/-- Every adapted reference views a reference of the store. -/
def ViewsOwn (store : Store) : Prop :=
  ∀ reference ∈ store.references, ∀ entity ∈ reference.kind.declaration?,
    ∃ viewed ∈ store.references, viewed.entity = entity

theorem viewsOwn_addReference {declaration : ReferenceDeclaration} (own : ViewsOwn bound.store)
    (added : bound.addReference hierarchy declaration = .ok next) : ViewsOwn next.store := by
  obtain ⟨reference, profile, found, stored, _⟩ := addReference_eq_ok added
  obtain ⟨listed, _⟩ := Store.add_eq_ok stored
  obtain ⟨_, kind, _, _, ofKind, _, _, rfl, _⟩ := reference_bind_eq_ok.mp found
  have viewed := (Kind.bind_eq_ok ofKind).2
  intro other member entity views
  rw [listed] at member ⊢
  rcases List.mem_append.mp member with old | new
  · obtain ⟨earlier, present, same⟩ := own other old entity views
    exact ⟨earlier, List.mem_append_left _ present, same⟩
  · obtain rfl := List.mem_singleton.mp new
    have ofKind : kind.declaration? = some entity := views
    rw [ofKind] at viewed
    cases target : declaration.kind.declaration? with
    | none => simp [target] at viewed
    | some identifier =>
      simp only [target, Option.toList_some, List.forall₂_cons, List.forall₂_nil_left_iff, and_true,
        ReferenceDeclaration.bindTarget_eq_ok] at viewed
      obtain ⟨earlier, known, same⟩ := viewed
      exact ⟨earlier, List.mem_append_left _ (Store.find?_eq_some known).1, same⟩

theorem viewsOwn_of_addAll (added : Bound.addAll hierarchy {} declarations = (bound, none)) :
    ViewsOwn bound.store := by
  refine addAll_induction (motive := fun _ bound => ViewsOwn bound.store) ?_ ?_ added
  · intro reference member
    cases member
  · intro _ declaration bound next own added
    cases declaration with
    | hierarchy block =>
      obtain rfl := Except.ok.inj added
      exact own
    | reference declaration => exact viewsOwn_addReference own added
    | constraint declaration =>
      obtain ⟨_, _, rfl⟩ := addConstraint_eq_ok added
      exact own

end Bound
end AnalysisUnit
end SchemeTyping
