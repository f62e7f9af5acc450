import SchemeTyping.Proofs.AnalysisUnit.Binding

/-! Guarded loading: every step is taken by what can refuse it, after the test that ought to rule the
refusal out. No step refuses, so that loading tells every fault by itself. -/
namespace SchemeTyping.AnalysisUnit

/-- A fault that a step raises by itself: a name without a qualifier or a reference, a kind that does not
go with its target, a negative position, or a word that stands for nothing. -/
inductive Raised where
  | hierarchy (fault : Hierarchy.Fault)
  | reference (fault : UnknownReference)
  | kind (fault : Kind.Fault)
  | position (fault : Constraint.NegativePosition)
  | word (label : String)
  deriving DecidableEq, Repr

/-- Why guarded loading ends early: a fault that is told, or one that a step raises. -/
inductive Interruption (Fault : Type) where
  | told (fault : Fault)
  | raised (fault : Raised)
  deriving DecidableEq, Repr

/-- What the default hierarchy is built from. -/
def schemesDraft : Hierarchy.Draft where
  order := Hierarchy.schemeOrder.map fun qualifier => (qualifier.name, qualifier.qualified)
  edges := Hierarchy.schemeEdges
  baseline := some "CLEAR"

namespace Guarded

/-- The ranked qualifier that a mention names, looked up once it is known to be there. -/
def qualifier (hierarchy : Hierarchy) (mention : Mention) : Except (Interruption Located) Qualifier :=
  if hierarchy.contains mention.name then
    (hierarchy.get mention.name).mapError fun fault => .raised (.hierarchy fault)
  else .error (.told ⟨.qualifierUnknown mention.name hierarchy.names, mention.offset⟩)

/-- The entity that an adapted reference views, looked up once it is known to be there. -/
def target (store : Store) (offset : Nat) (identifier : String) :
    Except (Interruption Located) Entity :=
  if store.contains identifier then
    ((store.get identifier).map Reference.entity).mapError fun fault => .raised (.reference fault)
  else .error (.told ⟨.targetUndeclared identifier, offset⟩)

def flavour (label : String) : Except (Interruption Located) Flavour :=
  match Flavour.ofLabel? label with
  | some flavour => .ok flavour
  | none => .error (.raised (.word label))

def severity (label : String) : Except (Interruption Located) Severity :=
  match Severity.ofLabel? label with
  | some severity => .ok severity
  | none => .error (.raised (.word label))

def options (hierarchy : Hierarchy) (identifier : String) :
    Options → List OptionDeclaration → Except (Interruption Located) Options
  | taken, [] => .ok taken
  | taken, option :: rest =>
    if taken.isGiven option.key then
      .error (.told ⟨.optionTwice option.key identifier, option.offset⟩)
    else
      match option.key with
      | .name => options hierarchy identifier { taken with name := some option.value } rest
      | .element => options hierarchy identifier { taken with element := some option.value } rest
      | .crypt => do
        let scheme ← qualifier hierarchy ⟨option.value, option.offset⟩
        options hierarchy identifier { taken with crypt := some scheme } rest

/-- Bind a reference declaration. Its kind is made from the word for it and the target, if any. -/
def reference (hierarchy : Hierarchy) (store : Store) (declaration : ReferenceDeclaration) :
    Except (Interruption Located) (Reference × Profile) :=
  if store.contains declaration.identifier then
    .error (.told ⟨.referenceTwice declaration.identifier, declaration.offset⟩)
  else do
    let flavour ← flavour declaration.kind.flavour.label
    let viewed ← declaration.kind.declaration?.mapM (target store declaration.offset)
    let taken ← options hierarchy declaration.identifier {} declaration.options
    let candidates ← declaration.qualifiers.mapM (qualifier hierarchy)
    let kind ← (Kind.make declaration.identifier flavour viewed).mapError fun fault =>
      Interruption.raised (.kind fault)
    return (.make store.size declaration.identifier kind taken.element,
      .initial declaration.identifier (taken.name.getD "") candidates taken.crypt)

/-- Add a bound reference to the store. What the store refuses is told. -/
def addReference (hierarchy : Hierarchy) (bound : Bound) (declaration : ReferenceDeclaration) :
    Except (Interruption Located) Bound := do
  let (reference, profile) ← reference hierarchy bound.store declaration
  let store ← (bound.store.add reference).mapError fun fault =>
    Interruption.told ⟨.referenceRefused fault, declaration.offset⟩
  return { bound with store, typing := bound.typing.put reference.entity profile }

/-- The policy after a severity that is written for a constraint. -/
def enter (policy : Policy) (constraint : Constraint) :
    Option Severity → Except (Interruption Located) Policy
  | none => .ok policy
  | some written => do
    let severity ← severity written.label
    return policy.setStatus constraint severity

/-- Add a constraint, which is built from a draft. -/
def addConstraint (bound : Bound) (declaration : ConstraintDeclaration) :
    Except (Interruption Located) Bound :=
  match [declaration.left, declaration.right].find? fun identifier =>
      !bound.store.contains identifier with
  | some identifier => .error (.told ⟨.endUndeclared identifier, declaration.offset⟩)
  | none => do
    let constraint ← (Constraint.ofDraft {
        left := declaration.left, right := declaration.right,
        position := declaration.position, label := declaration.label }).mapError fun fault =>
      Interruption.raised (.position fault)
    let policy ← enter bound.policy constraint declaration.severity
    return { bound with constraints := bound.constraints ++ [constraint], policy }

def add (hierarchy : Hierarchy) (bound : Bound) : Declaration → Except (Interruption Located) Bound
  | .hierarchy _ => .ok bound
  | .reference declaration => addReference hierarchy bound declaration
  | .constraint declaration => addConstraint bound declaration

/-- The hierarchy of a unit. The default one is built as any other. -/
def hierarchy (declarations : List Declaration) : Except (Interruption Located) Hierarchy :=
  match hierarchyBlocks declarations with
  | [] => (Hierarchy.build schemesDraft).mapError fun fault => .raised (.hierarchy fault)
  | _ => (bindHierarchy declarations).mapError .told

/-- An interruption with its place in the text. -/
def place (text : List Char) (source : String) : Interruption Located → Interruption LoadFault
  | .told located => .told (.unbound located.fault (Span.ofOffset text located.offset source))
  | .raised fault => .raised fault

/-- The unit that declarations make up. -/
def assemble (declarations : List Declaration) (source : String) :
    Except (Interruption Located) AnalysisUnit := do
  let hierarchy ← hierarchy declarations
  let bound ← declarations.foldlM (add hierarchy) {}
  return ⟨bound.store, bound.typing, bound.constraints, hierarchy, bound.policy, source⟩

/-- Load a unit from text. -/
def load (text : List Char) (source : String) : Except (Interruption LoadFault) AnalysisUnit :=
  match AnalysisUnit.declarations text source with
  | .error fault => .error (.told fault)
  | .ok declarations => (assemble declarations source).mapError (place text source)

section Equal
variable {hierarchy : Hierarchy} {store : Store} {bound : Bound}

theorem qualifier_eq (mention : Mention) :
    qualifier hierarchy mention = (mention.bind hierarchy).mapError .told := by
  unfold qualifier Mention.bind Hierarchy.contains Hierarchy.get
  cases hierarchy.find? mention.name with
  | none => rfl
  | some found => rfl

theorem target_eq (offset : Nat) (identifier : String) :
    target store offset identifier = (bindTarget store offset identifier).mapError .told := by
  unfold target bindTarget Store.contains Store.get
  cases store.find? identifier with
  | none => rfl
  | some found => rfl

theorem flavour_label (kind : Flavour) : flavour kind.label = .ok kind := by
  cases kind <;> rfl

theorem severity_label (status : Severity) : severity status.label = .ok status := by
  cases status <;> rfl

theorem build_schemesDraft : Hierarchy.build schemesDraft = .ok .schemes := by
  rfl

theorem options_eq (identifier : String) (taken : Options) (given : List OptionDeclaration) :
    options hierarchy identifier taken given =
      (bindOptions hierarchy identifier taken given).mapError .told := by
  induction given generalizing taken with
  | nil => rfl
  | cons option rest ih =>
    unfold options bindOptions
    split
    · rfl
    · cases option.key with
      | name => exact ih _
      | element => exact ih _
      | crypt =>
        simp only [qualifier_eq]
        cases Mention.bind hierarchy ⟨option.value, option.offset⟩ with
        | error fault => rfl
        | ok scheme => exact ih _

theorem mapM_qualifier (mentions : List Mention) :
    mentions.mapM (qualifier hierarchy) = (bindMentions hierarchy mentions).mapError .told := by
  induction mentions with
  | nil => rfl
  | cons mention rest ih =>
    rw [List.mapM_cons, ih, qualifier_eq, bindMentions]
    cases mention.bind hierarchy with
    | error fault => rfl
    | ok first => cases bindMentions hierarchy rest <;> rfl

/-- A kind is made from its own word and from what its target is bound to. -/
theorem reference_eq (declaration : ReferenceDeclaration) : reference hierarchy store declaration =
    (declaration.bind hierarchy store).mapError .told := by
  obtain ⟨offset, identifier, kind, qualifiers, given⟩ := declaration
  unfold reference ReferenceDeclaration.bind
  split
  · rfl
  · simp only [flavour_label, options_eq, mapM_qualifier]
    -- The word of a kind says whether there is a target, so that making the kind cannot fail.
    cases kind with
    | adapt viewed | methodAdapt viewed =>
      simp only [Kind.flavour, Kind.declaration?, Option.mapM_some, target_eq, Kind.bind]
      cases bindTarget store offset viewed with
      | error fault => rfl
      | ok entity =>
        cases bindOptions hierarchy identifier {} given with
        | error fault => rfl
        | ok taken => cases bindMentions hierarchy qualifiers <;> rfl
    | _ =>
      simp only [Kind.flavour, Kind.declaration?, Option.mapM_none, Kind.bind]
      cases bindOptions hierarchy identifier {} given with
      | error fault => rfl
      | ok taken => cases bindMentions hierarchy qualifiers <;> rfl

theorem addReference_eq (declaration : ReferenceDeclaration) :
    addReference hierarchy bound declaration =
      (bound.addReference hierarchy declaration).mapError .told := by
  unfold addReference Bound.addReference
  rw [reference_eq]
  cases declaration.bind hierarchy bound.store with
  | error fault => rfl
  | ok result =>
    obtain ⟨reference, profile⟩ := result
    show ((bound.store.add reference).mapError _ >>= _) = _
    dsimp only
    cases bound.store.add reference with
    | error fault => rfl
    | ok store => rfl

/-- The position of a declaration is not negative. -/
theorem ofDraft_declared (declaration : ConstraintDeclaration) :
    Constraint.ofDraft {
        left := declaration.left, right := declaration.right,
        position := declaration.position, label := declaration.label } =
      .ok declaration.constraint := by
  unfold Constraint.ofDraft
  rw [if_neg (Int.not_lt.mpr (Int.natCast_nonneg declaration.position))]
  rfl

theorem enter_eq (policy : Policy) (constraint : Constraint) (written : Option Severity) :
    enter policy constraint written = .ok (match written with
      | some severity => policy.setStatus constraint severity
      | none => policy) := by
  cases written with
  | none => rfl
  | some severity =>
    simp only [enter, severity_label]
    rfl

theorem addConstraint_eq (declaration : ConstraintDeclaration) :
    addConstraint bound declaration = (bound.addConstraint declaration).mapError .told := by
  unfold addConstraint Bound.addConstraint
  cases [declaration.left, declaration.right].find? fun identifier =>
      !bound.store.contains identifier with
  | some identifier => rfl
  | none =>
    simp only [ofDraft_declared, enter_eq]
    rfl

theorem add_eq (declaration : Declaration) :
    add hierarchy bound declaration = (bound.add hierarchy declaration).mapError .told := by
  cases declaration with
  | hierarchy block => rfl
  | reference declaration => exact addReference_eq declaration
  | constraint declaration => exact addConstraint_eq declaration

/-- Taking up all declarations, with the fault where there is one. -/
theorem foldlM_add (declarations : List Declaration) : declarations.foldlM (add hierarchy) bound =
    match Bound.addAll hierarchy bound declarations with
    | (_, some fault) => .error (.told fault)
    | (after, none) => .ok after := by
  induction declarations generalizing bound with
  | nil => rfl
  | cons declaration rest ih =>
    rw [List.foldlM_cons, add_eq, Bound.addAll]
    cases bound.add hierarchy declaration with
    | error fault => rfl
    | ok next => exact ih

end Equal

theorem hierarchy_eq (declarations : List Declaration) :
    hierarchy declarations = (bindHierarchy declarations).mapError .told := by
  unfold hierarchy
  split
  · next none =>
    rw [build_schemesDraft, bindHierarchy, none]
    rfl
  · rfl

/-- No step refuses after the test that goes before it: guarded loading yields what loading does, and
tells every fault. -/
theorem load_eq (text : List Char) (source : String) :
    load text source = (AnalysisUnit.load text source).result.mapError .told := by
  unfold load AnalysisUnit.load
  cases AnalysisUnit.declarations text source with
  | error fault => rfl
  | ok declarations =>
    simp only [assemble, AnalysisUnit.assemble, hierarchy_eq]
    cases bindHierarchy declarations with
    | error located => rfl
    | ok hierarchy =>
      show Except.mapError (place text source) (declarations.foldlM (add hierarchy) {} >>= _) = _
      rw [foldlM_add]
      dsimp only
      cases Bound.addAll hierarchy {} declarations with
      | mk bound stopped =>
        cases stopped with
        | none => rfl
        | some located => rfl

end Guarded
end SchemeTyping.AnalysisUnit
