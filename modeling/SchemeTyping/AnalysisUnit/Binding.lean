import SchemeTyping.AnalysisUnit.Declaration
import SchemeTyping.AnalysisUnit.Diagnostic
import SchemeTyping.Constraint.Policy
import SchemeTyping.Hierarchy.Schemes
import SchemeTyping.Reference.Store
import SchemeTyping.Reference.Typing

/-! Binding: declarations become a hierarchy, a store with its typing, constraints and a policy. Names
are bound in file order, so a reference has to be declared before it is used; the hierarchy counts
for the whole file wherever its block stands. -/
namespace SchemeTyping.AnalysisUnit

/-- What can be wrong with the declarations of a unit. -/
inductive BindingFault where
  | hierarchyTwice
  | orderMissing
  | baselineMissing
  | edgeUnranked (name : String)
  | baselineUnranked (name : String)
  | hierarchyInvalid (fault : Hierarchy.Fault)
  | qualifierUnknown (name : String) (known : List String)
  | referenceTwice (identifier : String)
  | targetUndeclared (identifier : String)
  | optionTwice (key : OptionKey) (identifier : String)
  | referenceRefused (fault : Store.Fault)
  | endUndeclared (identifier : String)
  deriving DecidableEq, Repr

namespace BindingFault

def code : BindingFault → Code
  | .hierarchyTwice => .duplicateHierarchy
  | .orderMissing => .missingOrder
  | .baselineMissing => .missingBaseline
  | .edgeUnranked _ => .unknownQualifier
  | .baselineUnranked _ => .unknownQualifier
  | .hierarchyInvalid _ => .invalidHierarchy
  | .qualifierUnknown _ _ => .unknownQualifier
  | .referenceTwice _ => .duplicateReference
  | .targetUndeclared _ => .unknownReference
  | .optionTwice _ _ => .duplicateOption
  | .referenceRefused _ => .duplicateReference
  | .endUndeclared _ => .unknownReference

def message : BindingFault → String
  | .hierarchyTwice => "hierarchy declared more than once"
  | .orderMissing => "hierarchy has no 'order' statement"
  | .baselineMissing => "hierarchy has no 'baseline' statement"
  | .edgeUnranked name => "unknown qualifier '" ++ name ++ "' in subtype edge"
  | .baselineUnranked name => "unknown baseline qualifier '" ++ name ++ "'"
  | .hierarchyInvalid fault => fault.message
  | .qualifierUnknown name _ => "unknown qualifier '" ++ name ++ "'"
  | .referenceTwice identifier => "reference '" ++ identifier ++ "' declared twice"
  | .targetUndeclared identifier => "adapt target '" ++ identifier ++ "' is not declared"
  | .optionTwice key identifier =>
    "option '" ++ key.label ++ "' given twice for '" ++ identifier ++ "'"
  | .referenceRefused fault => fault.message
  | .endUndeclared identifier => "unknown reference '" ++ identifier ++ "'"

def hint : BindingFault → String
  | .baselineMissing => "add e.g. 'baseline CLEAR;'"
  | .qualifierUnknown _ known => "declared qualifiers: " ++ ", ".intercalate known
  | .targetUndeclared _ => "declare the adapted reference first"
  | _ => ""

end BindingFault

/-- A fault and the offset of the text at which it shows. -/
structure Located where
  fault : BindingFault
  offset : Nat
  deriving DecidableEq, Repr

/-- The hierarchy that a block stands for. -/
def HierarchyDeclaration.bind (block : HierarchyDeclaration) : Except Located Hierarchy :=
  let names := block.order.map Mention.name
  if !block.ordered || block.order.isEmpty then .error ⟨.orderMissing, block.offset⟩
  else
    match block.baseline with
    | none => .error ⟨.baselineMissing, block.offset⟩
    | some baseline =>
      let unranked := block.edges.findSome? fun edge =>
        if edge.lower ∉ names then some (edge.lower, edge.offset)
        else if edge.upper ∉ names then some (edge.upper, edge.offset)
        else none
      match unranked with
      | some (name, offset) => .error ⟨.edgeUnranked name, offset⟩
      | none =>
        if baseline.name ∉ names then .error ⟨.baselineUnranked baseline.name, baseline.offset⟩
        else
          (Hierarchy.build {
            order := names.map fun name => (name, "")
            edges := block.edges.map fun edge => ⟨edge.lower, edge.upper⟩
            baseline := some baseline.name }).mapError fun fault =>
              ⟨.hierarchyInvalid fault, block.offset⟩

/-- The hierarchy blocks among some declarations. -/
def hierarchyBlocks (declarations : List Declaration) : List HierarchyDeclaration :=
  declarations.filterMap fun
    | .hierarchy block => some block
    | _ => none

/-- The hierarchy of a unit: its only block, or the default without a block. -/
def bindHierarchy (declarations : List Declaration) : Except Located Hierarchy :=
  match hierarchyBlocks declarations with
  | [] => .ok .schemes
  | [block] => block.bind
  | _ :: second :: _ => .error ⟨.hierarchyTwice, second.offset⟩

/-- What the declarations so far are bound to. -/
structure Bound where
  store : Store := Store.empty
  typing : Typing := Typing.empty
  constraints : List Constraint := []
  policy : Policy := {}

/-- The ranked qualifier that a mention names. -/
def Mention.bind (hierarchy : Hierarchy) (mention : Mention) : Except Located Qualifier :=
  match hierarchy.find? mention.name with
  | some qualifier => .ok qualifier
  | none => .error ⟨.qualifierUnknown mention.name hierarchy.names, mention.offset⟩

/-- The options of one reference. -/
structure Options where
  crypt : Option Qualifier := none
  name : Option String := none
  element : Option String := none
  deriving DecidableEq, Repr

def Options.isGiven (options : Options) : OptionKey → Bool
  | .crypt => options.crypt.isSome
  | .name => options.name.isSome
  | .element => options.element.isSome

/-- Take up options in order; each may be given once. -/
def bindOptions (hierarchy : Hierarchy) (identifier : String) :
    Options → List OptionDeclaration → Except Located Options
  | options, [] => .ok options
  | options, option :: rest =>
    if options.isGiven option.key then
      .error ⟨.optionTwice option.key identifier, option.offset⟩
    else
      match option.key with
      | .name => bindOptions hierarchy identifier { options with name := some option.value } rest
      | .element =>
        bindOptions hierarchy identifier { options with element := some option.value } rest
      | .crypt =>
        match Mention.bind hierarchy ⟨option.value, option.offset⟩ with
        | .error fault => .error fault
        | .ok qualifier =>
          bindOptions hierarchy identifier { options with crypt := some qualifier } rest

/-- The qualifiers that some mentions name; the first unknown one is at fault. -/
def bindMentions (hierarchy : Hierarchy) : List Mention → Except Located (List Qualifier)
  | [] => .ok []
  | mention :: rest =>
    match mention.bind hierarchy with
    | .error fault => .error fault
    | .ok qualifier => (bindMentions hierarchy rest).map (qualifier :: ·)

/-- The entity that an adapted reference views; it has to be declared before. -/
def bindTarget (store : Store) (offset : Nat) (identifier : String) : Except Located Entity :=
  match store.find? identifier with
  | some reference => .ok reference.entity
  | none => .error ⟨.targetUndeclared identifier, offset⟩

/-- Bind a reference declaration: identifier, target, options and candidates in this order. -/
def ReferenceDeclaration.bind (hierarchy : Hierarchy) (store : Store)
    (declaration : ReferenceDeclaration) : Except Located (Reference × Profile) :=
  if store.contains declaration.identifier then
    .error ⟨.referenceTwice declaration.identifier, declaration.offset⟩
  else
    match declaration.kind.bind (bindTarget store declaration.offset) with
    | .error fault => .error fault
    | .ok kind =>
      match bindOptions hierarchy declaration.identifier {} declaration.options with
      | .error fault => .error fault
      | .ok options =>
        (bindMentions hierarchy declaration.qualifiers).map fun candidates =>
          (.make store.size declaration.identifier kind options.element,
            .initial declaration.identifier (options.name.getD "") candidates options.crypt)

/-- Add a bound reference to the store. -/
def Bound.addReference (bound : Bound) (hierarchy : Hierarchy)
    (declaration : ReferenceDeclaration) : Except Located Bound :=
  match declaration.bind hierarchy bound.store with
  | .error fault => .error fault
  | .ok (reference, profile) =>
    match bound.store.add reference with
    | .error fault => .error ⟨.referenceRefused fault, declaration.offset⟩
    | .ok store =>
      .ok { bound with store, typing := bound.typing.put reference.entity profile }

/-- Add a constraint between references of the store. Only a severity that is written enters the
policy. -/
def Bound.addConstraint (bound : Bound) (declaration : ConstraintDeclaration) :
    Except Located Bound :=
  match [declaration.left, declaration.right].find? fun identifier =>
      !bound.store.contains identifier with
  | some identifier => .error ⟨.endUndeclared identifier, declaration.offset⟩
  | none =>
    let constraint : Constraint :=
      { left := declaration.left, right := declaration.right,
        position := declaration.position, label := declaration.label }
    .ok { bound with
      constraints := bound.constraints ++ [constraint]
      policy := match declaration.severity with
        | some severity => bound.policy.setStatus constraint severity
        | none => bound.policy }

/-- Take up one declaration. -/
def Bound.add (bound : Bound) (hierarchy : Hierarchy) : Declaration → Except Located Bound
  | .hierarchy _ => .ok bound
  | .reference declaration => bound.addReference hierarchy declaration
  | .constraint declaration => bound.addConstraint declaration

/-- Take up declarations in order. A fault keeps what was bound before it. -/
def Bound.addAll (hierarchy : Hierarchy) : Bound → List Declaration → Bound × Option Located
  | bound, [] => (bound, none)
  | bound, declaration :: rest =>
    match bound.add hierarchy declaration with
    | .error fault => (bound, some fault)
    | .ok bound => Bound.addAll hierarchy bound rest

end SchemeTyping.AnalysisUnit
