import SchemeTyping.Proofs.AnalysisUnit.Binding
import SchemeTyping.Proofs.Extraction.Assignment
import SchemeTyping.Proofs.Extraction.Survey
import SchemeTyping.Proofs.Hierarchy.Building
import SchemeTyping.Proofs.Hierarchy.Reachability

/-! The verdict on a whole unit, read off the declarations of its file. What is violated depends on the
order, the edges, the listed qualifiers and the constraints that are declared, and on nothing else. -/
namespace SchemeTyping
namespace AnalysisUnit

/-- What a verdict reads in a file: the order and the edges, the qualifiers listed for each identifier,
and the constraints with the severities written. Kinds, options and offsets are left out. -/
structure Outline where
  order : List String
  edges : List Edge
  listed : List (String × List String)
  constraints : List (Constraint × Option Severity)
  deriving DecidableEq

/-- The outline of a file; without a block the schemes are ordered and related by default. -/
def outline (declarations : List Declaration) : Outline where
  order := match hierarchyBlocks declarations with
    | [] => Hierarchy.schemeOrder.map Qualifier.name
    | block :: _ => block.order.map Mention.name
  edges := match hierarchyBlocks declarations with
    | [] => Hierarchy.schemeEdges
    | block :: _ => block.edges.map fun edge => ⟨edge.lower, edge.upper⟩
  listed := (declaredReferences declarations).map fun declaration =>
    (declaration.identifier, declaration.qualifiers.map Mention.name)
  constraints := (declaredConstraints declarations).map fun declaration =>
    (declaration.constraint, declaration.severity)

namespace Outline

/-- The qualifiers listed for an identifier. -/
def qualifiers (outline : Outline) (identifier : String) : List String :=
  ((outline.listed.find? fun entry => entry.1 == identifier).map Prod.snd).getD []

/-- The listed qualifier that stands earliest in the order. -/
def leader? (outline : Outline) (identifier : String) : Option String :=
  Hierarchy.leader? outline.order (outline.qualifiers identifier)

/-- A constraint offends if both ends list qualifiers, no path leads from the leader of the left end to
that of the right end, and the constraint counts as an error. -/
structure Offends (outline : Outline) (status : Constraint → Severity) (constraint : Constraint) :
    Prop where
  left : outline.qualifiers constraint.left ≠ []
  right : outline.qualifiers constraint.right ≠ []
  apart : ∃ lower ∈ outline.leader? constraint.left, ∃ upper ∈ outline.leader? constraint.right,
    ¬ Hierarchy.Path outline.edges lower upper
  counts : status constraint = .error

instance (outline : Outline) (status : Constraint → Severity) (constraint : Constraint) :
    Decidable (outline.Offends status constraint) :=
  decidable_of_iff (outline.qualifiers constraint.left ≠ [] ∧
      outline.qualifiers constraint.right ≠ [] ∧
      (∃ lower ∈ outline.leader? constraint.left, ∃ upper ∈ outline.leader? constraint.right,
        ¬ Hierarchy.Path outline.edges lower upper) ∧ status constraint = .error)
    ⟨fun ⟨left, right, apart, counts⟩ => ⟨left, right, apart, counts⟩,
      fun offends => ⟨offends.left, offends.right, offends.apart, offends.counts⟩⟩

/-- The policy of the severities that are written. -/
def policy (outline : Outline) : Policy :=
  outline.constraints.foldl (fun policy entry =>
    match entry.2 with
    | some severity => policy.setStatus entry.1 severity
    | none => policy) {}

/-- The constraints that offend, in order and as often as they are declared. -/
def violations (outline : Outline) : List Constraint :=
  (outline.constraints.map Prod.fst).filter fun constraint =>
    decide (outline.Offends outline.policy.status constraint)

theorem qualifiers_ne_nil {outline : Outline} {identifier name : String}
    (leads : outline.leader? identifier = some name) : outline.qualifiers identifier ≠ [] := by
  intro empty
  have member := List.find?_some leads
  simp [empty] at member

end Outline

/-- A block that is bound gives its order and its edges to the hierarchy. -/
theorem hierarchy_bind_eq_ok {block : HierarchyDeclaration} {hierarchy : Hierarchy}
    (found : block.bind = .ok hierarchy) :
    hierarchy.names = block.order.map Mention.name ∧
      hierarchy.edges = block.edges.map fun edge => ⟨edge.lower, edge.upper⟩ := by
  unfold HierarchyDeclaration.bind at found
  dsimp only at found
  split at found
  · cases found
  · split at found
    · cases found
    · split at found
      · cases found
      · split at found
        · cases found
        · obtain ⟨names, edges⟩ := Hierarchy.build_eq_ok (Outcome.mapError_eq_ok.mp found)
          refine ⟨names.trans ?_, edges⟩
          simp

/-- The hierarchy of a unit has the order and the edges of the outline. -/
theorem bindHierarchy_eq_ok {declarations : List Declaration} {hierarchy : Hierarchy}
    (found : bindHierarchy declarations = .ok hierarchy) :
    hierarchy.names = (outline declarations).order ∧
      hierarchy.edges = (outline declarations).edges := by
  unfold bindHierarchy at found
  split at found
  · next none =>
    obtain rfl := Except.ok.inj found
    simp only [outline, none]
    exact ⟨rfl, rfl⟩
  · next block single =>
    simp only [outline, single]
    exact hierarchy_bind_eq_ok found
  · cases found

namespace Bound.Reflects
variable {hierarchy : Hierarchy} {declarations : List Declaration} {bound : Bound}

/-- The outline lists for a declared identifier what its declaration lists. -/
theorem qualifiers_outline (reflects : Reflects hierarchy declarations bound)
    {declaration : ReferenceDeclaration} (member : declaration ∈ declaredReferences declarations) :
    (outline declarations).qualifiers declaration.identifier =
      declaration.qualifiers.map Mention.name := by
  have distinct :
      ((declaredReferences declarations).map ReferenceDeclaration.identifier).Nodup := by
    rw [← reflects.identifiers]
    exact bound.store.distinct
  have found := find?_of_nodup_map distinct member
  simp only [Outline.qualifiers, outline, List.find?_map, Function.comp_def, found, Option.map_some,
    Option.getD_some]

/-- A declared reference starts unresolved, and its candidates are the ranked qualifiers listed. -/
theorem profile_of_bind {declaration : ReferenceDeclaration} {reference : Reference}
    {profile : Profile} {earlier : Store}
    (bind : declaration.bind hierarchy earlier = .ok (reference, profile)) :
    profile.resolved = none ∧ (∀ qualifier ∈ profile.candidates.members, qualifier ∈ hierarchy.order) ∧
      ∀ name, name ∈ profile.candidates.members.map Qualifier.name ↔
        name ∈ declaration.qualifiers.map Mention.name := by
  obtain ⟨_, _, _, candidates, _, _, listed, _, rfl⟩ := reference_bind_eq_ok.mp bind
  obtain ⟨names, ranked⟩ := bindMentions_eq_ok listed
  refine ⟨rfl, fun qualifier member => ranked qualifier (Candidates.mem_of_mem_ofList member), ?_⟩
  intro name
  rw [← names]
  exact Candidates.mem_names_ofList

/-- Assignment can settle every reference of the store. -/
theorem settles (reflects : Reflects hierarchy declarations bound) :
    ∀ reference ∈ bound.store.references, hierarchy.Settles (bound.typing.profile reference) := by
  intro reference member
  obtain ⟨declaration, _, earlier, _, bind⟩ := reflects.declared member
  obtain ⟨fresh, ranked, _⟩ := profile_of_bind bind
  refine ⟨fun qualifier inside => ?_, fun held resolved => ?_⟩
  · exact List.mem_map.mpr ⟨qualifier, ranked qualifier inside, rfl⟩
  · simp [fresh] at resolved

/-- A typing resolves every identifier of a store to the leader of the qualifiers listed for it. -/
def Leads (hierarchy : Hierarchy) (outline : Outline) (store : Store) (typing : Typing) : Prop :=
  ∀ identifier ∈ store.identifiers, ∃ reference, store.find? identifier = some reference ∧
    (typing.profile reference).resolved.map Qualifier.name = outline.leader? identifier ∧
    ∀ qualifier ∈ (typing.profile reference).resolved, qualifier ∈ hierarchy.order

/-- Maximal assignment completes, and afterwards the leaders are what references are resolved to. -/
theorem assignAll (reflects : Reflects hierarchy declarations bound)
    (order : hierarchy.names = (outline declarations).order) :
    ∃ after, hierarchy.assignAll bound.typing bound.store.references = (after, none) ∧
      Leads hierarchy (outline declarations) bound.store after := by
  obtain ⟨after, completed, gets⟩ :=
    Hierarchy.assignAll_of_settles bound.store.nodup_entities reflects.settles
  refine ⟨after, completed, fun identifier listed => ?_⟩
  obtain ⟨declaration, member, rfl⟩ := List.mem_map.mp (reflects.identifiers ▸ listed)
  obtain ⟨reference, earlier, found, bind⟩ := reflects.references declaration member
  obtain ⟨fresh, ranked, names⟩ := profile_of_bind bind
  have inside : reference.entity ∈ bound.store.references.map Reference.entity :=
    List.mem_map.mpr ⟨reference, (Store.find?_eq_some found).1, rfl⟩
  have settled : after.profile reference = hierarchy.settled (bound.typing.profile reference) := by
    rw [Typing.profile, gets, if_pos inside]
    rfl
  obtain ⟨leads, members⟩ := Hierarchy.resolved_settled fresh ranked
  refine ⟨reference, found, ?_, settled ▸ members⟩
  rw [settled, leads, Outline.leader?, reflects.qualifiers_outline member, ← order]
  exact Hierarchy.leader?_congr names

end Bound.Reflects

section Verdict
variable {setting : Setting} {outline : Outline}

/-- The verdict on resolved ends is a violation exactly if no path leads from one to the other and the
constraint counts as an error. -/
theorem judge_violated (constraint : Constraint) {lower upper : Qualifier}
    (edges : setting.hierarchy.edges = outline.edges)
    (lowerRanked : lower ∈ setting.hierarchy.order) (upperRanked : upper ∈ setting.hierarchy.order) :
    ∃ verdict, setting.judge constraint lower upper = .ok verdict ∧
      (verdict.isViolation = true ↔ ¬ Hierarchy.Path outline.edges lower.name upper.name ∧
        setting.severity constraint = .error) := by
  simp only [Setting.judge, Hierarchy.isSubtype_eq lowerRanked upperRanked, edges]
  by_cases path : Hierarchy.Path outline.edges lower.name upper.name
  · exact ⟨.satisfied, by simp [path], by simp [Verdict.isViolation, path]⟩
  · cases counts : setting.severity constraint with
    | error => exact ⟨.violated, by simp [path], by simp [Verdict.isViolation, path]⟩
    | warning =>
      exact ⟨.tolerated lower upper, by simp [path], by simp [Verdict.isViolation]⟩

/-- Once the leaders are assigned there is a finding about every constraint between declared
references, and it is a violation exactly if the constraint offends. -/
theorem examine_offends {constraint : Constraint} (edges : setting.hierarchy.edges = outline.edges)
    (leads : Bound.Reflects.Leads setting.hierarchy outline setting.store setting.typing)
    (left : constraint.left ∈ setting.store.identifiers)
    (right : constraint.right ∈ setting.store.identifiers) :
    ∃ finding, setting.examine constraint = .ok finding ∧
      (finding.verdict.isViolation = true ↔ outline.Offends setting.severity constraint) := by
  obtain ⟨leftReference, leftFound, leftLeads, leftRanked⟩ := leads constraint.left left
  obtain ⟨rightReference, rightFound, rightLeads, rightRanked⟩ := leads constraint.right right
  have ends : setting.ends constraint = .ok (leftReference, rightReference) :=
    Setting.ends_eq_ok.mpr ⟨leftFound, rightFound⟩
  have judged : ∃ verdict, setting.verdictOn constraint leftReference rightReference = .ok verdict ∧
      (verdict.isViolation = true ↔ outline.Offends setting.severity constraint) := by
    unfold Setting.verdictOn Setting.profile
    cases lowerHeld : (setting.typing.profile leftReference).resolved with
    | none =>
      refine ⟨.unresolved, rfl, by simp [Verdict.isViolation], fun offends => ?_⟩
      obtain ⟨lower, leader, _⟩ := offends.apart
      rw [← leftLeads, lowerHeld] at leader
      cases leader
    | some lower =>
      cases upperHeld : (setting.typing.profile rightReference).resolved with
      | none =>
        refine ⟨.unresolved, rfl, by simp [Verdict.isViolation], fun offends => ?_⟩
        obtain ⟨_, _, upper, leader, _⟩ := offends.apart
        rw [← rightLeads, upperHeld] at leader
        cases leader
      | some upper =>
        rw [lowerHeld] at leftLeads leftRanked
        rw [upperHeld] at rightLeads rightRanked
        obtain ⟨verdict, found, violated⟩ := judge_violated constraint edges
          (leftRanked lower rfl) (rightRanked upper rfl)
        refine ⟨verdict, found, violated.trans ⟨fun ⟨apart, counts⟩ => ?_, fun offends => ?_⟩⟩
        · exact ⟨Outline.qualifiers_ne_nil leftLeads.symm, Outline.qualifiers_ne_nil rightLeads.symm,
            ⟨lower.name, leftLeads.symm, upper.name, rightLeads.symm, apart⟩, counts⟩
        · obtain ⟨lowerName, lowerLeads, upperName, upperLeads, apart⟩ := offends.apart
          obtain rfl : lower.name = lowerName := Option.some.inj (leftLeads.trans lowerLeads)
          obtain rfl : upper.name = upperName := Option.some.inj (rightLeads.trans upperLeads)
          exact ⟨apart, offends.counts⟩
  obtain ⟨verdict, found, violated⟩ := judged
  exact ⟨⟨constraint, _, verdict, _⟩, by rw [Setting.examine, ends]; simp only [found]; rfl, violated⟩

/-- A check after maximal assignment completes, and its violations are the constraints that offend. -/
theorem check_offends (setting : Setting) {constraints : List Constraint}
    (edges : setting.hierarchy.edges = outline.edges)
    (leads : Bound.Reflects.Leads setting.hierarchy outline setting.store setting.typing)
    (ends : ∀ constraint ∈ constraints, constraint.left ∈ setting.store.identifiers ∧
      constraint.right ∈ setting.store.identifiers) (progress : Progress) :
    (setting.check progress constraints).2 = none ∧
      (setting.check progress constraints).1.violations = progress.violations ++
        constraints.filter fun constraint =>
          decide (outline.Offends setting.severity constraint) := by
  have examined : ∀ constraint ∈ constraints, ∃ finding,
      setting.examine constraint = .ok finding ∧
        (finding.verdict.isViolation = true ↔ outline.Offends setting.severity constraint) :=
    fun constraint member =>
      examine_offends edges leads (ends constraint member).1 (ends constraint member).2
  obtain ⟨surveyed, complete⟩ := Setting.survey_of_examined fun constraint member =>
    (examined constraint member).imp fun _ found => found.1
  have completed : (setting.check progress constraints).2 = none :=
    Setting.check_of_survey complete
  obtain ⟨findings, same, _, collected⟩ := Setting.check_completes completed
  obtain ⟨listed, found⟩ := Setting.survey_completes.mp same
  have judged : ∀ finding ∈ findings, finding.verdict.isViolation =
      decide (outline.Offends setting.severity finding.constraint) := by
    intro finding member
    have inside : finding.constraint ∈ constraints :=
      listed ▸ List.mem_map.mpr ⟨finding, member, rfl⟩
    obtain ⟨other, first, violated⟩ := examined finding.constraint inside
    obtain rfl : finding = other := Except.ok.inj ((found finding member).symm.trans first)
    exact Bool.eq_iff_iff.mpr (violated.trans decide_eq_true_iff.symm)
  refine ⟨completed, ?_⟩
  rw [collected, List.filter_congr judged, ← listed, List.filter_map]
  rfl

end Verdict

theorem policy_outline (declarations : List Declaration) :
    (outline declarations).policy =
      (declaredConstraints declarations).foldl ConstraintDeclaration.enter {} := by
  simp only [Outline.policy, outline, List.foldl_map]
  rfl

/-- The first pass over a loaded unit completes, and the outline of the file says what it blames. -/
theorem run_of_load {text : List Char} {source : String} {unit : AnalysisUnit}
    (loaded : (load text source).result = .ok unit) :
    ∃ declarations extraction, parse text = .ok declarations ∧
      unit.policy = (outline declarations).policy ∧ unit.run.result = .ok extraction ∧
      extraction.violations = (outline declarations).violations := by
  obtain ⟨declarations, hierarchy, bound, parsed, found, reflects, rfl⟩ := load_eq_ok loaded
  obtain ⟨order, edges⟩ := bindHierarchy_eq_ok found
  obtain ⟨after, assigned, leads⟩ := reflects.assignAll order
  let unit : AnalysisUnit :=
    ⟨bound.store, bound.typing, bound.constraints, hierarchy, bound.policy, source⟩
  have policy : bound.policy = (outline declarations).policy := by
    rw [reflects.policy, policy_outline]
  have declared : bound.constraints = (outline declarations).constraints.map Prod.fst := by
    rw [reflects.constraints, outline, List.map_map]
    rfl
  have checked := check_offends { unit.setting with typing := after } edges leads
    reflects.ends
  obtain ⟨started, extraction, fresh, completed, collected⟩ :=
    unit.setting.extract_completes Ledger.empty assigned
      fun progress => (checked progress).1
  refine ⟨declarations, extraction, parsed, policy, completed, ?_⟩
  rw [collected, (checked started).2, fresh, List.nil_append, Outline.violations, ← declared,
    ← policy]
  rfl

/-- The first pass over a loaded unit completes. What it blames are the declared constraints that
offend, in file order and as often as they are declared, and the passes over two files of one outline
blame the same. -/
theorem violations_run {text : List Char} {source : String} {unit : AnalysisUnit}
    (loaded : (load text source).result = .ok unit) :
    ∃ declarations extraction, parse text = .ok declarations ∧ unit.run.result = .ok extraction ∧
      extraction.violations =
        ((declaredConstraints declarations).map ConstraintDeclaration.constraint).filter
          (fun constraint =>
            decide ((outline declarations).Offends unit.policy.status constraint)) ∧
      ∀ otherText otherSource otherUnit others,
        (load otherText otherSource).result = .ok otherUnit → parse otherText = .ok others →
        outline others = outline declarations →
        ∃ other, otherUnit.run.result = .ok other ∧ other.violations = extraction.violations := by
  obtain ⟨declarations, extraction, parsed, policy, completed, blamed⟩ := run_of_load loaded
  refine ⟨declarations, extraction, parsed, completed, ?_, ?_⟩
  · rw [blamed, policy, Outline.violations, outline, List.map_map]
    rfl
  · intro otherText otherSource otherUnit others otherLoaded otherParsed same
    obtain ⟨read, other, readParsed, _, otherCompleted, otherBlamed⟩ := run_of_load otherLoaded
    obtain rfl : others = read := Except.ok.inj (otherParsed.symm.trans readParsed)
    exact ⟨other, otherCompleted, by rw [otherBlamed, blamed, same]⟩

/-- A constraint between two references, from random to deterministic encryption. -/
def descending : List Char :=
  "ref x: variable {DET, RND};\nref y: parameter {DET} name \"y\";\nconstraint x <: y @ 0;".toList

/-- No scheme is below a less preferred one, so the constraint offends. -/
theorem violations_run_descending : ∃ unit extraction,
    (load descending "descending").result = .ok unit ∧ unit.run.result = .ok extraction ∧
      extraction.violations = [{ left := "x", right := "y" }] := by
  have accepted : (load descending "descending").result.toOption.map AnalysisUnit.policy =
      some {} := by
    decide +kernel
  obtain ⟨unit, loaded, policy⟩ := Outcome.exists_of_toOption_map accepted
  obtain ⟨declarations, extraction, parsed, completed, blamed, _⟩ := violations_run loaded
  have offending : (parse descending).toOption.map (fun declarations =>
      ((declaredConstraints declarations).map ConstraintDeclaration.constraint).filter
        fun constraint =>
          decide ((outline declarations).Offends ({} : Policy).status constraint)) =
      some [{ left := "x", right := "y" }] := by
    decide +kernel
  rw [parsed] at offending
  refine ⟨unit, extraction, loaded, completed, ?_⟩
  rw [blamed, policy]
  exact Option.some.inj offending

end AnalysisUnit
end SchemeTyping
