import SchemeTyping.Command.Run
import SchemeTyping.Proofs.AnalysisUnit.Faithful
import SchemeTyping.Proofs.AnalysisUnit.Verdict
import SchemeTyping.Proofs.AnalysisUnit.Written
import SchemeTyping.Proofs.Extraction.Repetition

/-! Repeated passes over a loaded unit: the first one completes, and every later one is the same pass and
leaves the unit as the first one left it. -/
namespace SchemeTyping.AnalysisUnit

/-- The references of a unit that are not resolved. -/
def unresolved (unit : AnalysisUnit) : List Reference :=
  unit.store.references.filter fun reference => !(unit.typing.profile reference).isResolved

/-- The reference declarations of a file that list no qualifier. -/
def bareReferences (declarations : List Declaration) : List ReferenceDeclaration :=
  (declaredReferences declarations).filter fun declaration => declaration.qualifiers.isEmpty

/-- If the pass over what a pass leaves is that pass again, so are all later ones. -/
theorem runTimes_of_stable {unit : AnalysisUnit} (stable : (unit.after unit.run).run = unit.run)
    (times : Nat) : (unit.runTimes times).1 = List.replicate times unit.run ∧
      (unit.runTimes (times + 1)).2 = unit.after unit.run := by
  induction times generalizing unit with
  | zero => exact ⟨rfl, rfl⟩
  | succ times ih =>
    -- The unit that a pass leaves is stable too, and the pass over it leaves that unit again.
    have kept : (unit.after unit.run).after (unit.after unit.run).run = unit.after unit.run := by
      rw [stable]
      rfl
    have again : ((unit.after unit.run).after (unit.after unit.run).run).run =
        (unit.after unit.run).run := congrArg AnalysisUnit.run kept
    obtain ⟨passes, last⟩ := ih again
    rw [stable] at passes
    rw [kept] at last
    exact ⟨congrArg (unit.run :: ·) passes, last⟩

/-- A pass over references that can be settled settles them, and the pass over what it leaves is the same
one. -/
theorem run_of_settles {unit : AnalysisUnit} (settles : ∀ reference ∈ unit.store.references,
      unit.hierarchy.Settles (unit.typing.profile reference)) :
    (unit.after unit.run).run = unit.run ∧ ∀ reference ∈ unit.store.references,
      unit.run.typing.profile reference = unit.hierarchy.settled (unit.typing.profile reference) := by
  have distinct := unit.store.nodup_entities
  obtain ⟨after, assigned, gets⟩ := Hierarchy.assignAll_of_settles distinct settles
  have again := Hierarchy.assignAll_again distinct assigned
  have typing : unit.run.typing = after :=
    unit.setting.typing_extract unit.constraints Ledger.empty assigned
  constructor
  · rw [AnalysisUnit.after, typing]
    exact unit.setting.extract_again unit.constraints Ledger.empty assigned again
  · intro reference member
    have inside : reference.entity ∈ unit.store.references.map Reference.entity :=
      List.mem_map.mpr ⟨reference, member, rfl⟩
    rw [typing, Typing.profile, gets, if_pos inside]
    rfl

namespace ReferenceDeclaration.Describes
variable {hierarchy : Hierarchy} {declaration : ReferenceDeclaration} {reference : Reference}
  {profile : Profile}

theorem candidates_eq_nil (describes : declaration.Describes hierarchy reference profile) :
    profile.candidates.members = [] ↔ declaration.qualifiers = [] := by
  rw [← List.map_eq_nil_iff (f := Qualifier.name), ← List.map_eq_nil_iff (f := Mention.name),
    List.eq_nil_iff_forall_not_mem, List.eq_nil_iff_forall_not_mem]
  exact forall_congr' fun name => not_congr (describes.candidates name)

/-- Assignment leaves a reference unresolved exactly if its declaration lists no qualifier. -/
theorem settled_unresolved (describes : declaration.Describes hierarchy reference profile) :
    (hierarchy.settled profile).isResolved = false ↔ declaration.qualifiers = [] := by
  have ranked : ∀ qualifier ∈ profile.candidates.members, qualifier ∈ hierarchy.order :=
    fun qualifier member => describes.ranked qualifier (.inl member)
  have named : ∀ name ∈ profile.candidates.members.map Qualifier.name, name ∈ hierarchy.names := by
    intro name member
    obtain ⟨qualifier, present, rfl⟩ := List.mem_map.mp member
    exact List.mem_map.mpr ⟨qualifier, ranked qualifier present, rfl⟩
  have leads := (Hierarchy.resolved_settled describes.unresolved ranked).1
  rw [Profile.isResolved, Option.isSome_eq_false_iff, Option.isNone_iff_eq_none,
    ← Option.map_eq_none_iff, leads, Hierarchy.leader?_eq_none named, List.map_eq_nil_iff,
    describes.candidates_eq_nil]

end ReferenceDeclaration.Describes

/-- What is left of two lists whose members stand for each other and pass the same test. -/
theorem map_filter_of_forall₂ {First Second Key : Type} {stands : First → Second → Prop}
    {firstKey : First → Key} {secondKey : Second → Key} {firstTest : First → Bool}
    {secondTest : Second → Bool} {firsts : List First} {seconds : List Second}
    (all : List.Forall₂ stands firsts seconds)
    (keys : ∀ first second, stands first second → firstKey first = secondKey second)
    (tests : ∀ first second, second ∈ seconds → stands first second →
      (firstTest first = true ↔ secondTest second = true)) :
    (seconds.filter secondTest).map secondKey = (firsts.filter firstTest).map firstKey := by
  induction all with
  | nil => rfl
  | @cons first second firsts seconds same _ ih =>
    have rest := ih fun first second member => tests first second (List.mem_cons_of_mem _ member)
    have test := Bool.eq_iff_iff.mpr (tests first second List.mem_cons_self same)
    rw [List.filter_cons, List.filter_cons, test]
    split
    · rw [List.map_cons, List.map_cons, keys first second same, rest]
    · exact rest

theorem mem_of_mem_declaredConstraints {declarations : List Declaration}
    {declaration : ConstraintDeclaration} (member : declaration ∈ declaredConstraints declarations) :
    .constraint declaration ∈ declarations := by
  obtain ⟨other, present, own⟩ := List.mem_filterMap.mp member
  cases other with
  | constraint written =>
    obtain rfl := Option.some.inj own
    exact present
  | _ => cases own

/-- What a check prints counts the declarations of the file that the unit reflects. -/
theorem checkLine_of_reflects {declarations : List Declaration} {hierarchy : Hierarchy} {bound : Bound}
    {source : String} (reflects : Bound.Reflects hierarchy declarations bound) :
    Command.checkLine
        ⟨bound.store, bound.typing, bound.constraints, hierarchy, bound.policy, source⟩ =
      source ++ ": OK, " ++
        toString (declaredReferences declarations).length ++ " reference(s), " ++
        toString (declaredConstraints declarations).length ++ " constraint(s), " ++
        toString (bareReferences declarations).length ++ " without candidates\n" := by
  have bare : (bound.store.references.filter fun reference =>
        (bound.typing.profile reference).candidates.members = []).map Reference.identifier =
      (bareReferences declarations).map ReferenceDeclaration.identifier := by
    refine map_filter_of_forall₂ reflects.described
      (fun declaration reference describes => describes.identifier.symm) ?_
    intro declaration reference _ describes
    rw [decide_eq_true_iff, describes.candidates_eq_nil, List.isEmpty_iff]
  have counted := congrArg List.length bare
  simp only [List.length_map] at counted
  have size : bound.store.size = (declaredReferences declarations).length :=
    reflects.described.length_eq.symm
  have constraints : bound.constraints.length = (declaredConstraints declarations).length := by
    rw [reflects.constraints, List.length_map]
  simp only [Command.checkLine, size, constraints, counted]

/-- No position in a loaded unit has too many digits. -/
theorem hasNumeral_of_load {text : List Char} {source : String} {unit : AnalysisUnit}
    (loaded : (load text source).result = .ok unit) :
    ∀ constraint ∈ unit.constraints, Text.hasNumeral constraint.position = true := by
  obtain ⟨_, _, _, parsed, _, reflects, rfl⟩ := load_eq_ok loaded
  intro constraint member
  obtain ⟨declaration, declared, rfl⟩ := List.mem_map.mp (reflects.constraints ▸ member)
  exact hasNumeral_of_parse parsed (mem_of_mem_declaredConstraints declared)

/-- A loaded unit can be run as often as one likes. Every pass completes and is the first one again, and
leaves the unit as the first one left it; no position is too long to be written; and what stays
unresolved are the references declared without qualifiers, which a check counts. -/
theorem runTimes_of_load {text : List Char} {source : String} {unit : AnalysisUnit}
    (loaded : (load text source).result = .ok unit) :
    ∃ declarations extraction, parse text = .ok declarations ∧ unit.run.result = .ok extraction ∧
      (∀ times, (unit.runTimes times).1 = List.replicate times unit.run ∧
        (unit.runTimes (times + 1)).2 = unit.after unit.run) ∧
      (∀ constraint ∈ unit.constraints, Text.hasNumeral constraint.position = true) ∧
      (unit.after unit.run).unresolved.map Reference.identifier =
        (bareReferences declarations).map ReferenceDeclaration.identifier ∧
      Command.checkLine unit = source ++ ": OK, " ++
        toString (declaredReferences declarations).length ++ " reference(s), " ++
        toString (declaredConstraints declarations).length ++ " constraint(s), " ++
        toString (bareReferences declarations).length ++ " without candidates\n" := by
  obtain ⟨read, extraction, readParsed, _, completed, _⟩ := run_of_load loaded
  have numerals := hasNumeral_of_load loaded
  obtain ⟨declarations, hierarchy, bound, parsed, found, reflects, rfl⟩ := load_eq_ok loaded
  obtain rfl : read = declarations := Except.ok.inj (readParsed.symm.trans parsed)
  let unit : AnalysisUnit :=
    ⟨bound.store, bound.typing, bound.constraints, hierarchy, bound.policy, source⟩
  have settles : ∀ reference ∈ unit.store.references,
      unit.hierarchy.Settles (unit.typing.profile reference) := reflects.settles
  obtain ⟨stable, settled⟩ := run_of_settles settles
  refine ⟨read, extraction, parsed, completed, runTimes_of_stable stable, numerals, ?_,
    checkLine_of_reflects reflects⟩
  refine map_filter_of_forall₂ reflects.described
    (fun declaration reference describes => describes.identifier.symm) ?_
  intro declaration reference member describes
  have left : (unit.after unit.run).typing.profile reference =
      hierarchy.settled (bound.typing.profile reference) := settled reference member
  rw [left, Bool.not_eq_true', describes.settled_unresolved, List.isEmpty_iff]

/-- A unit with a reference that lists no qualifier. -/
def undetermined : List Char :=
  "ref nil: equal_null { };\nref x: variable { RND };\nconstraint nil <: x @ 3;\n".toList

theorem runTimes_of_load_undetermined : ∃ unit, (load undetermined "null").result = .ok unit ∧
    (unit.runTimes 3).1 = [unit.run, unit.run, unit.run] ∧
    (unit.after unit.run).unresolved.map Reference.identifier = ["nil"] := by
  have accepted : (load undetermined "null").result.toOption.map AnalysisUnit.source =
      some "null" := by
    decide +kernel
  obtain ⟨unit, loaded, _⟩ := Outcome.exists_of_toOption_map accepted
  obtain ⟨declarations, _, parsed, _, repeats, _, left, _⟩ := runTimes_of_load loaded
  have bare : (parse undetermined).toOption.map (fun declarations =>
      (bareReferences declarations).map ReferenceDeclaration.identifier) = some ["nil"] := by
    decide +kernel
  rw [parsed] at bare
  exact ⟨unit, loaded, (repeats 3).1, left.trans (Option.some.inj bare)⟩

end SchemeTyping.AnalysisUnit
