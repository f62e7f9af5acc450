/-! Runs: the stretches in which a sort takes up a list. A run goes up, or strictly down, as far as it
can, and is extended to a least length. The order in which values are first read follows from the
runs; every value is read, and the main statement says so. -/
namespace SchemeTyping.Runs
variable {Value : Type}

/-- The least length of a run: a length below 64 itself, else the length halved until it is below 64,
and one more if any half was rounded down. -/
def leastLength (rounded : Bool) (length : Nat) : Nat :=
  if length < 64 then length + rounded.toNat
  else leastLength (rounded || length % 2 == 1) (length / 2)
termination_by length

/-- How many ranks go on from a previous one in the same direction. -/
def stretch (goesOn : Nat → Nat → Bool) (previous : Nat) : List Nat → Nat
  | [] => 0
  | next :: rest => if goesOn previous next then stretch goesOn next rest + 1 else 0

/-- The length of the longest run that begins a list of ranks. -/
def naturalLength : List Nat → Nat
  | first :: second :: rest =>
    if second < first then stretch (fun previous next => next < previous) second rest + 2
    else stretch (fun previous next => previous ≤ next) second rest + 2
  | ranks => ranks.length

/-- The values in the order in which they are first read. A run begins with a comparison of its second
value with its first, unless the first was `met` already because the run before it stopped there. -/
def readFrom (rank : Value → Nat) (least : Nat) (met : Bool) : List Value → List Value
  | first :: second :: rest =>
    let natural := naturalLength ((first :: second :: rest).map rank)
    let further := max natural least - 2
    (if met then [first, second] else [second, first]) ++ rest.take further ++
      readFrom rank least (least ≤ natural) (rest.drop further)
  | values => values
termination_by values => values.length
decreasing_by simp only [List.length_drop, List.length_cons]; omega

/-- The order in which a sort first reads the values of a list. A single value is not read. -/
def readOrder (rank : Value → Nat) : List Value → List Value
  | [_] => []
  | values => readFrom rank (leastLength false values.length) false values

theorem mem_readFrom (rank : Value → Nat) (least : Nat) (met : Bool) (values : List Value)
    (value : Value) : value ∈ readFrom rank least met values ↔ value ∈ values := by
  fun_induction readFrom rank least met values with
  | case1 met first second rest natural further ih =>
    have parts : value ∈ rest ↔ value ∈ rest.take further ∨ value ∈ rest.drop further := by
      rw [← List.mem_append, List.take_append_drop]
    cases met with
    | false => simpa [ih, parts] using or_left_comm
    | true => simp [ih, parts]
  | case2 => rfl

/-- Every value is read unless it stands alone. -/
theorem mem_readOrder (rank : Value → Nat) (values : List Value) (value : Value) :
    value ∈ readOrder rank values ↔ value ∈ values ∧ values.length ≠ 1 := by
  unfold readOrder
  split
  · simp
  · next several =>
    have plural : values.length ≠ 1 := fun single => by
      obtain ⟨only, rfl⟩ := List.length_eq_one_iff.mp single
      exact several only rfl
    simp [mem_readFrom, plural]

end SchemeTyping.Runs
