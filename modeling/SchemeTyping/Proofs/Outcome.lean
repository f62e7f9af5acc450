/-! Inversion of results that were carried on to another value, or to another fault. -/
namespace SchemeTyping.Outcome
variable {Fault OtherFault Value OtherValue : Type}

theorem map_eq_ok {result : Except Fault Value} {carry : Value → OtherValue} {value : OtherValue} :
    result.map carry = .ok value ↔ ∃ inner, result = .ok inner ∧ carry inner = value := by
  cases result with
  | error fault => simp [Except.map]
  | ok inner => simp [Except.map]

theorem map_eq_error {result : Except Fault Value} {carry : Value → OtherValue} {fault : Fault} :
    result.map carry = .error fault ↔ result = .error fault := by
  cases result with
  | error other => simp [Except.map]
  | ok inner => simp [Except.map]

theorem mapError_eq_ok {result : Except Fault Value} {carry : Fault → OtherFault} {value : Value} :
    result.mapError carry = .ok value ↔ result = .ok value := by
  cases result with
  | error fault =>
    constructor
    · intro same
      cases same
    · intro same
      cases same
  | ok inner =>
    constructor
    · intro same
      cases same
      rfl
    · intro same
      cases same
      rfl

theorem mapError_eq_error {result : Except Fault Value} {carry : Fault → OtherFault}
    {fault : OtherFault} :
    result.mapError carry = .error fault ↔ ∃ inner, result = .error inner ∧ carry inner = fault := by
  cases result with
  | error inner =>
    constructor
    · intro same
      exact ⟨inner, rfl, Except.error.inj same⟩
    · rintro ⟨_, same, rfl⟩
      cases same
      rfl
  | ok value =>
    constructor
    · intro same
      cases same
    · rintro ⟨_, same, _⟩
      cases same

/-- What a result carries on to an evaluated value is there. -/
theorem exists_of_toOption_map {result : Except Fault Value} {carry : Value → OtherValue}
    {value : OtherValue} (evaluated : result.toOption.map carry = some value) :
    ∃ inner, result = .ok inner ∧ carry inner = value := by
  cases result with
  | error fault => cases evaluated
  | ok inner => exact ⟨inner, rfl, Option.some.inj evaluated⟩

end SchemeTyping.Outcome
