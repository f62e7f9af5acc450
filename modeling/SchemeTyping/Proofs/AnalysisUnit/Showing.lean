import SchemeTyping.Proofs.AnalysisUnit.WellFormed

/-! Where the fault of a declaration shows that is refused behind others: at its keyword, or at the option
or the candidate that is at fault. -/
namespace SchemeTyping.AnalysisUnit
variable {hierarchy : Hierarchy} {declarations before : List Declaration} {located : Located}
  {fault : BindingFault} {token : Token} {offset : Nat}

namespace ReferenceDeclaration
variable {declaration : ReferenceDeclaration}

/-- The token at which a fault of a reference declaration shows. What is wrong with its identifier, its
target or its element shows at the keyword, an option and a candidate at themselves. -/
inductive Shows (order : List String) (before : List Declaration) (declaration : ReferenceDeclaration) :
    BindingFault → Token → Nat → Prop where
  | identifier (taken : declaration.identifier ∈ identifiersOf before) :
      Shows order before declaration (.referenceTwice declaration.identifier) (.keyword "ref")
        declaration.offset
  | target (target : String) (viewed : declaration.kind.declaration? = some target)
      (missing : target ∉ identifiersOf before) :
      Shows order before declaration (.targetUndeclared target) (.keyword "ref") declaration.offset
  | option (front later : List OptionDeclaration) (option : OptionDeclaration)
      (given : declaration.options = front ++ option :: later)
      (once : (front.map OptionDeclaration.key).Nodup)
      (again : option.key ∈ front.map OptionDeclaration.key) :
      Shows order before declaration (.optionTwice option.key declaration.identifier) option.token
        option.offset
  | scheme (option : OptionDeclaration) (given : option ∈ declaration.options)
      (crypt : option.key = .crypt) (outside : option.value ∉ order) :
      Shows order before declaration (.qualifierUnknown option.value order) (.qualifier option.value)
        option.offset
  | candidate (mention : Mention) (listed : mention ∈ declaration.qualifiers)
      (outside : mention.name ∉ order) :
      Shows order before declaration (.qualifierUnknown mention.name order) (.qualifier mention.name)
        mention.offset
  | element (element : String) (owner : ReferenceDeclaration)
      (owns : declaration.ownedElement? = some element) (earlier : owner ∈ declaredReferences before)
      (taken : owner.ownedElement? = some element) :
      Shows order before declaration (.referenceRefused (.elementTaken element owner.identifier))
        (.keyword "ref") declaration.offset

theorem Shows.recorded {order : List String} (shows : declaration.Shows order before fault token offset) :
    ⟨token, some offset⟩ ∈ declaration.recorded := by
  have options {option : OptionDeclaration} (given : option ∈ declaration.options) :
      option.lexeme ∈ declaration.recorded :=
    List.mem_cons_of_mem _ (List.mem_append_right _ (List.mem_map_of_mem given))
  cases shows with
  | identifier taken => exact List.mem_cons_self
  | target target viewed missing => exact List.mem_cons_self
  | option front later option given once again =>
    exact options (given ▸ List.mem_append_right _ List.mem_cons_self)
  | scheme option given crypt outside =>
    have own := options given
    rwa [OptionDeclaration.lexeme, OptionDeclaration.token, crypt] at own
  | candidate mention listed outside =>
    exact List.mem_cons_of_mem _ (List.mem_append_left _
      (List.mem_map_of_mem (f := Mention.lexeme) listed))
  | element element owner owns earlier taken => exact List.mem_cons_self

theorem mention_bind_eq_error {mention : Mention} (failed : mention.bind hierarchy = .error located) :
    mention.name ∉ hierarchy.names ∧
      located = ⟨.qualifierUnknown mention.name hierarchy.names, mention.offset⟩ := by
  refine ⟨fun ranked => ?_, ?_⟩
  · obtain ⟨qualifier, found⟩ := mention_bind_isOk_iff.mpr ranked
    rw [found] at failed
    cases failed
  · unfold Mention.bind at failed
    split at failed
    · cases failed
    · exact (Except.error.inj failed).symm

theorem shows_of_mentions {mentions : List Mention} (among : mentions ⊆ declaration.qualifiers)
    (failed : bindMentions hierarchy mentions = .error located) :
    ∃ token, declaration.Shows hierarchy.names before located.fault token located.offset := by
  induction mentions with
  | nil => cases failed
  | cons mention rest ih =>
    unfold bindMentions at failed
    split at failed
    · next unknown =>
      cases failed
      obtain ⟨outside, rfl⟩ := mention_bind_eq_error unknown
      exact ⟨_, .candidate mention (among List.mem_cons_self) outside⟩
    · exact ih (List.subset_of_cons_subset among) (Outcome.map_eq_error.mp failed)

/-- Options are taken up until one comes again or names a scheme that is not ranked. -/
theorem shows_of_options {front rest : List OptionDeclaration} {options : Options}
    (given : declaration.options = front ++ rest) (once : (front.map OptionDeclaration.key).Nodup)
    (held : ∀ key, options.isGiven key = true ↔ key ∈ front.map OptionDeclaration.key)
    (failed : bindOptions hierarchy declaration.identifier options rest = .error located) :
    ∃ token, declaration.Shows hierarchy.names before located.fault token located.offset := by
  induction rest generalizing front options with
  | nil => cases failed
  | cons option rest ih =>
    rw [bindOptions_cons] at failed
    split at failed
    · next again =>
      cases failed
      exact ⟨_, .option front rest option given once ((held option.key).mp again)⟩
    · next free =>
      rw [held] at free
      split at failed
      · next fault unknown =>
        cases failed
        unfold Options.enter at unknown
        split at unknown
        · cases unknown
        · cases unknown
        · next crypt =>
          obtain ⟨outside, rfl⟩ := mention_bind_eq_error (Outcome.map_eq_error.mp unknown)
          exact ⟨_, .scheme option (given ▸ List.mem_append_right _ List.mem_cons_self) crypt outside⟩
      · next next entered =>
        have values := (Options.enter_eq_ok entered).1
        have further : declaration.options = (front ++ [option]) ++ rest := by
          rw [given, List.append_assoc]
          rfl
        refine ih further ?_ ?_ failed
        · rw [List.map_append, List.map_singleton, nodup_snoc]
          exact ⟨once, free⟩
        · intro key
          rw [Options.isGiven_eq, values, List.map_append, List.mem_append, ← held,
            Options.isGiven_eq, List.map_singleton, List.mem_singleton]
          split
          · next same => simp [same]
          · next apart => simp [apart]

theorem target_of_bind {store : Store} {place : Nat} {kind : Kind String}
    (failed : kind.bind (bindTarget store place) = .error located) :
    ∃ target, kind.declaration? = some target ∧ target ∉ store.identifiers ∧
      located = ⟨.targetUndeclared target, place⟩ := by
  have lookup {target : String} (missed : bindTarget store place target = .error located) :
      target ∉ store.identifiers ∧ located = ⟨.targetUndeclared target, place⟩ := by
    unfold bindTarget at missed
    split at missed
    · cases missed
    · next absent => exact ⟨Store.find?_eq_none.mp absent, (Except.error.inj missed).symm⟩
  cases kind with
  | adapt target | methodAdapt target =>
    exact ⟨target, rfl, lookup (Outcome.map_eq_error.mp failed)⟩
  | _ => cases failed

/-- A reference that is refused behind others is so for a fault that shows. -/
theorem shows_of_addReference {bound : Bound} (reflects : Bound.Reflects hierarchy before bound)
    (failed : bound.addReference hierarchy declaration = .error located) :
    ∃ token, declaration.Shows hierarchy.names before located.fault token located.offset := by
  have identifiers : bound.store.identifiers = identifiersOf before := reflects.identifiers
  unfold Bound.addReference at failed
  split at failed
  · next unbound =>
    cases failed
    unfold ReferenceDeclaration.bind at unbound
    split at unbound
    · next taken =>
      cases unbound
      exact ⟨_, .identifier (identifiers ▸ Store.contains_iff.mp taken)⟩
    · split at unbound
      · next unviewed =>
        cases unbound
        obtain ⟨target, viewed, missing, rfl⟩ := target_of_bind unviewed
        exact ⟨_, .target target viewed (identifiers ▸ missing)⟩
      · split at unbound
        · next refused =>
          cases unbound
          refine shows_of_options (List.nil_append _).symm List.nodup_nil (fun key => ?_) refused
          cases key <;> simp [Options.isGiven]
        · exact shows_of_mentions (List.Subset.refl _) (Outcome.map_eq_error.mp unbound)
  · next reference profile found =>
    split at failed
    · next fault refused =>
      cases failed
      have describes := describes_of_bind found
      obtain ⟨fresh, _⟩ := bind_isOk_iff.mp ⟨_, found⟩
      rcases Store.obstacle?_eq_some.mp (Store.add_eq_error.mp refused) with
        ⟨taken, _⟩ | ⟨_, element, own, owner, found, rfl⟩
      · exact absurd (describes.identifier ▸ taken) fresh
      · obtain ⟨member, owns⟩ := Store.owner?_iff.mp found
        obtain ⟨declared, earlier, _, identifier, bind⟩ := reflects.declared member
        rw [(describes_of_bind bind).ownedElement] at owns
        rw [describes.ownedElement] at own
        rw [← identifier]
        exact ⟨_, .element element declared own earlier owns⟩
    · cases failed

end ReferenceDeclaration

/-- The token at which a fault of a declaration shows behind others. A constraint shows at its keyword if
one of its ends is not declared before. -/
inductive Declaration.Shows (order : List String) (before : List Declaration) :
    Declaration → BindingFault → Token → Nat → Prop where
  | reference (declaration : ReferenceDeclaration) {fault : BindingFault} {token : Token} {offset : Nat}
      (shows : declaration.Shows order before fault token offset) :
      Shows order before (.reference declaration) fault token offset
  | constraint (declaration : ConstraintDeclaration) (identifier : String)
      (used : identifier = declaration.left ∨ identifier = declaration.right)
      (missing : identifier ∉ identifiersOf before) :
      Shows order before (.constraint declaration) (.endUndeclared identifier) (.keyword "constraint")
        declaration.offset

theorem Declaration.Shows.recorded {order : List String} {declaration : Declaration}
    (shows : declaration.Shows order before fault token offset) :
    ⟨token, some offset⟩ ∈ declaration.recorded := by
  cases shows with
  | reference declaration shows => exact shows.recorded
  | constraint declaration identifier used missing => exact List.mem_cons_self

/-- A declaration that is refused behind others is so for a fault that shows. -/
theorem shows_of_add {bound : Bound} (reflects : Bound.Reflects hierarchy before bound)
    {declaration : Declaration} (failed : bound.add hierarchy declaration = .error located) :
    ∃ token, declaration.Shows hierarchy.names before located.fault token located.offset := by
  cases declaration with
  | hierarchy block => cases failed
  | reference declaration =>
    obtain ⟨token, shows⟩ := declaration.shows_of_addReference reflects failed
    exact ⟨token, .reference declaration shows⟩
  | constraint declaration =>
    simp only [Bound.add, Bound.addConstraint] at failed
    split at failed
    · next identifier missing =>
      cases failed
      have used : identifier = declaration.left ∨ identifier = declaration.right := by
        simpa using List.mem_of_find?_eq_some missing
      have absent : identifier ∉ identifiersOf before := by
        rw [identifiersOf, ← reflects.identifiers, ← Store.contains_iff]
        simpa using List.find?_some missing
      exact ⟨_, .constraint declaration identifier used absent⟩
    · cases failed

/-- Declarations are taken up until one is refused. -/
theorem Bound.addAll_eq_some {bound next : Bound}
    (stopped : Bound.addAll hierarchy bound declarations = (next, some located)) :
    ∃ before declaration after, declarations = before ++ declaration :: after ∧
      Bound.addAll hierarchy bound before = (next, none) ∧
      next.add hierarchy declaration = .error located := by
  induction declarations generalizing bound with
  | nil => cases (Prod.mk.inj stopped).2
  | cons first rest ih =>
    unfold Bound.addAll at stopped
    split at stopped
    · next fault refused =>
      obtain ⟨rfl, same⟩ := Prod.mk.inj stopped
      obtain rfl := Option.some.inj same
      exact ⟨[], first, rest, rfl, rfl, refused⟩
    · next middle taken =>
      obtain ⟨before, declaration, after, rfl, added, refused⟩ := ih stopped
      refine ⟨first :: before, declaration, after, rfl, ?_, refused⟩
      rw [Bound.addAll, taken]
      exact added

end SchemeTyping.AnalysisUnit
