import SchemeTyping.Proofs.AnalysisUnit.Binding

/-! The severity of a declared constraint. Equal constraints share one entry of the policy, so the last
severity written for any of them counts for all, also for those that write none. -/
namespace SchemeTyping

namespace Policy

theorem status_setStatus (policy : Policy) (constraint other : Constraint) (severity : Severity) :
    (policy.setStatus constraint severity).status other =
      if other.Agrees constraint then severity else policy.status other := by
  unfold status setStatus
  rw [Table.find?_put]
  by_cases agrees : other.plain = constraint.plain
  · simp [Constraint.Agrees, agrees]
  · simp [Constraint.Agrees, agrees]

end Policy

namespace AnalysisUnit

/-- The severity that the last declaration of a constraint to write one writes. -/
def lastWritten? (declared : List ConstraintDeclaration) (constraint : Constraint) :
    Option Severity :=
  (declared.filterMap fun declaration =>
    if declaration.constraint = constraint then declaration.severity else none).getLast?

variable {declared : List ConstraintDeclaration} {declaration : ConstraintDeclaration}

theorem lastWritten?_cons (first : ConstraintDeclaration) (rest : List ConstraintDeclaration)
    (constraint : Constraint) : lastWritten? (first :: rest) constraint =
      (lastWritten? rest constraint).or
        (if first.constraint = constraint then first.severity else none) := by
  unfold lastWritten?
  rw [List.filterMap_cons]
  split
  · next silent => rw [silent, Option.or_none]
  · next severity written =>
    rw [written, List.getLast?_cons]
    cases (rest.filterMap _).getLast? <;> rfl

/-- What is written last is written by a declaration of the constraint. -/
theorem lastWritten?_eq_some {constraint : Constraint} {severity : Severity}
    (written : lastWritten? declared constraint = some severity) :
    ∃ declaration ∈ declared,
      declaration.constraint = constraint ∧ declaration.severity = some severity := by
  obtain ⟨declaration, member, own⟩ := List.mem_filterMap.mp (List.mem_of_getLast? written)
  by_cases same : declaration.constraint = constraint
  · exact ⟨declaration, member, same, by simpa [same] using own⟩
  · simp [same] at own

theorem lastWritten?_eq_none (member : declaration ∈ declared)
    (silent : lastWritten? declared declaration.constraint = none) : declaration.severity = none := by
  have absent := List.filterMap_eq_nil_iff.mp (List.getLast?_eq_none_iff.mp silent) declaration member
  simpa using absent

/-- One declaration after the other, the last severity written for a constraint counts. -/
theorem status_foldl_enter (policy : Policy) :
    (declared.foldl ConstraintDeclaration.enter policy).status declaration.constraint =
      (lastWritten? declared declaration.constraint).getD (policy.status declaration.constraint) := by
  induction declared generalizing policy with
  | nil => rfl
  | cons first rest ih =>
    have entered : (first.enter policy).status declaration.constraint =
        (if first.constraint = declaration.constraint then first.severity else none).getD
          (policy.status declaration.constraint) := by
      unfold ConstraintDeclaration.enter
      cases written : first.severity with
      | none => simp
      | some severity =>
        simp only
        rw [Policy.status_setStatus]
        by_cases same : first.constraint = declaration.constraint
        · have agrees : declaration.constraint.Agrees first.constraint :=
            congrArg Constraint.plain same.symm
          rw [if_pos agrees, if_pos same, Option.getD_some]
        · -- Declared constraints have plain positions, so those that agree are equal.
          have apart : ¬ declaration.constraint.Agrees first.constraint :=
            fun agrees => same (Eq.symm agrees)
          rw [if_neg apart, if_neg same, Option.getD_none]
    rw [List.foldl_cons, ih, entered, lastWritten?_cons]
    cases lastWritten? rest declaration.constraint <;> rfl

/-- The severity that a declaration asks for: an error unless it writes one. -/
def ConstraintDeclaration.asked (declaration : ConstraintDeclaration) : Severity :=
  declaration.severity.getD .error

/-- In a loaded unit every constraint has the severity written last for it, or else counts as an error.
So all constraints have the severity that their own declaration asks for exactly if no two declarations
of one constraint ask for different ones. -/
theorem status_of_load {text : List Char} {source : String} {unit : AnalysisUnit}
    (loaded : (load text source).result = .ok unit) :
    ∃ declarations, parse text = .ok declarations ∧
      unit.constraints =
        (declaredConstraints declarations).map ConstraintDeclaration.constraint ∧
      unit.constraints.map unit.policy.status =
        (declaredConstraints declarations).map (fun declaration =>
          (lastWritten? (declaredConstraints declarations) declaration.constraint).getD .error) ∧
      (unit.constraints.map unit.policy.status =
          (declaredConstraints declarations).map ConstraintDeclaration.asked ↔
        ∀ first ∈ declaredConstraints declarations, ∀ second ∈ declaredConstraints declarations,
          first.constraint = second.constraint → first.asked = second.asked) := by
  obtain ⟨declarations, hierarchy, bound, parsed, _, reflects, rfl⟩ := load_eq_ok loaded
  have status : ∀ declaration ∈ declaredConstraints declarations,
      bound.policy.status declaration.constraint =
        (lastWritten? (declaredConstraints declarations) declaration.constraint).getD .error := by
    intro declaration _
    rw [reflects.policy, status_foldl_enter]
    rfl
  refine ⟨declarations, parsed, reflects.constraints, ?_, ?_⟩
  · rw [reflects.constraints, List.map_map]
    exact List.map_congr_left status
  · rw [reflects.constraints, List.map_map, List.map_inj_left]
    constructor
    · intro keeps first firstMember second secondMember same
      calc first.asked
        _ = bound.policy.status first.constraint := (keeps first firstMember).symm
        _ = bound.policy.status second.constraint := by rw [same]
        _ = second.asked := keeps second secondMember
    · intro agree declaration member
      refine (status declaration member).trans ?_
      cases written : lastWritten? (declaredConstraints declarations) declaration.constraint with
      | none => rw [ConstraintDeclaration.asked, lastWritten?_eq_none member written]
      | some severity =>
        obtain ⟨other, otherMember, same, own⟩ := lastWritten?_eq_some written
        rw [← agree other otherMember declaration member same, ConstraintDeclaration.asked, own]

/-- Two declarations of one constraint, of which only the first writes a severity. -/
def redeclared : List Char :=
  "ref x: variable {RND};\nref y: variable {DET};\nconstraint x <: y @ 5 warning;\nconstraint x <: y @ 5;\n".toList

theorem parse_redeclared : ∃ declarations, parse redeclared = .ok declarations ∧
    declaredConstraints declarations =
      [⟨46, "x", "y", 5, some .warning, ""⟩, ⟨77, "x", "y", 5, none, ""⟩] := by
  apply Outcome.exists_of_toOption_map
  decide +kernel

theorem load_redeclared : ∃ unit, (load redeclared "redeclared").result = .ok unit ∧
    unit.constraints.map unit.policy.status = [.warning, .warning] := by
  apply Outcome.exists_of_toOption_map
  decide +kernel

/-- The declaration without a severity is tolerated along with the other one. -/
theorem status_of_load_redeclared : ∃ unit declarations,
    (load redeclared "redeclared").result = .ok unit ∧ parse redeclared = .ok declarations ∧
      (declaredConstraints declarations).map ConstraintDeclaration.asked = [.warning, .error] ∧
      unit.constraints.map unit.policy.status = [.warning, .warning] := by
  obtain ⟨unit, loaded, _⟩ := load_redeclared
  obtain ⟨declarations, parsed, _, status, _⟩ := status_of_load loaded
  obtain ⟨found, same, declared⟩ := parse_redeclared
  rw [parsed] at same
  obtain rfl := Except.ok.inj same
  refine ⟨unit, declarations, loaded, parsed, by rw [declared]; rfl, ?_⟩
  rw [status, declared]
  decide

/-- Not in every unit that loads do constraints keep the severity that their own declaration asks for. -/
theorem not_asked_redeclared : ¬ ∀ text source unit declarations,
    (load text source).result = .ok unit → parse text = .ok declarations →
      unit.constraints.map unit.policy.status =
        (declaredConstraints declarations).map ConstraintDeclaration.asked := by
  intro keeps
  obtain ⟨unit, loaded, tolerated⟩ := load_redeclared
  obtain ⟨declarations, parsed, declared⟩ := parse_redeclared
  have same := keeps _ _ unit declarations loaded parsed
  rw [tolerated, declared] at same
  exact absurd same (by decide)

end AnalysisUnit
end SchemeTyping
