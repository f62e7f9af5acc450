/-! Tables that keep the order in which their keys came first. -/
namespace SchemeTyping

/-- Pairs of a key and its value in the order in which the keys were first put. -/
structure Table (Key Value : Type) where
  entries : List (Key × Value) := []
  deriving DecidableEq, Repr

namespace Table
variable {Key Value : Type} [DecidableEq Key]

def empty : Table Key Value := ⟨[]⟩

def keys (table : Table Key Value) : List Key := table.entries.map Prod.fst

def values (table : Table Key Value) : List Value := table.entries.map Prod.snd

def size (table : Table Key Value) : Nat := table.entries.length

private def lookup (key : Key) : List (Key × Value) → Option Value
  | [] => none
  | (head, value) :: rest => if head = key then some value else lookup key rest

private def store (key : Key) (value : Value) : List (Key × Value) → List (Key × Value)
  | [] => [(key, value)]
  | (head, old) :: rest =>
    if head = key then (head, value) :: rest else (head, old) :: store key value rest

def find? (table : Table Key Value) (key : Key) : Option Value := lookup key table.entries

def contains (table : Table Key Value) (key : Key) : Bool := (table.find? key).isSome

/-- Replace the value of a known key in its place, or add a new key at the end. -/
def put (table : Table Key Value) (key : Key) (value : Value) : Table Key Value :=
  ⟨store key value table.entries⟩

/-- The table that results from putting the pairs one after the other. -/
def ofList (pairs : List (Key × Value)) : Table Key Value :=
  pairs.foldl (fun table pair => table.put pair.1 pair.2) empty

omit [DecidableEq Key] in
theorem length_keys (table : Table Key Value) : table.keys.length = table.size := List.length_map _

@[simp] theorem find?_empty (key : Key) : (empty : Table Key Value).find? key = none := rfl

theorem find?_put_self (table : Table Key Value) (key : Key) (value : Value) :
    (table.put key value).find? key = some value := by
  obtain ⟨entries⟩ := table
  induction entries with
  | nil => simp [put, find?, store, lookup]
  | cons head rest ih =>
    by_cases same : head.1 = key
    · simp [put, find?, store, lookup, same]
    · simpa [put, find?, store, lookup, same] using ih

theorem find?_put_of_ne (table : Table Key Value) {key other : Key} (value : Value)
    (different : other ≠ key) : (table.put key value).find? other = table.find? other := by
  obtain ⟨entries⟩ := table
  induction entries with
  | nil => simp [put, find?, store, lookup, Ne.symm different]
  | cons head rest ih =>
    by_cases same : head.1 = key
    · have apart : ¬ head.1 = other := fun equal => different (equal.symm.trans same)
      simp [put, find?, store, lookup, same, same ▸ apart]
    · by_cases hit : head.1 = other
      · simp [put, find?, store, lookup, hit, different]
      · simpa [put, find?, store, lookup, same, hit] using ih

theorem find?_put (table : Table Key Value) (key other : Key) (value : Value) :
    (table.put key value).find? other = if other = key then some value else table.find? other := by
  by_cases same : other = key
  · simp [same, find?_put_self]
  · simp [same, find?_put_of_ne]

/-- Putting the value that a key has changes nothing. -/
theorem put_of_find? {table : Table Key Value} {key : Key} {value : Value}
    (found : table.find? key = some value) : table.put key value = table := by
  obtain ⟨entries⟩ := table
  induction entries with
  | nil => cases found
  | cons head rest ih =>
    by_cases same : head.1 = key
    · have held : head.2 = value := by simpa [find?, lookup, same] using found
      simp [put, store, ← same, ← held]
    · have later : find? ⟨rest⟩ key = some value := by simpa [find?, lookup, same] using found
      have kept : store key value rest = rest := congrArg Table.entries (ih later)
      simp [put, store, same, kept]

/-- A known key keeps its place and a new one goes to the end. -/
theorem keys_put (table : Table Key Value) (key : Key) (value : Value) :
    (table.put key value).keys = if key ∈ table.keys then table.keys else table.keys ++ [key] := by
  obtain ⟨entries⟩ := table
  induction entries with
  | nil => simp [put, keys, store]
  | cons head rest ih =>
    by_cases same : head.1 = key
    · simp [put, keys, store, same]
    · have apart : ¬ key = head.1 := fun equal => same equal.symm
      simp only [put, keys] at ih
      by_cases known : key ∈ rest.map Prod.fst
      · simp only [known, if_true] at ih
        simp [put, keys, store, same, known, ih]
      · simp only [known, if_false] at ih
        simp [put, keys, store, same, known, apart, ih]

theorem contains_iff {table : Table Key Value} {key : Key} :
    table.contains key = true ↔ key ∈ table.keys := by
  obtain ⟨entries⟩ := table
  induction entries with
  | nil => simp [contains, find?, keys, lookup]
  | cons head rest ih =>
    by_cases same : head.1 = key
    · simp [contains, find?, keys, lookup, same]
    · have apart : ¬ key = head.1 := fun equal => same equal.symm
      simpa [contains, find?, keys, lookup, same, apart] using ih

/-- The value of a key stands in its first entry. -/
theorem find?_eq (table : Table Key Value) (key : Key) :
    table.find? key = (table.entries.find? fun entry => entry.1 == key).map Prod.snd := by
  obtain ⟨entries⟩ := table
  induction entries with
  | nil => rfl
  | cons head rest ih =>
    by_cases same : head.1 = key
    · simp [find?, lookup, same]
    · simpa [find?, lookup, same] using ih

/-- A new key goes to the end with its value. -/
theorem entries_put_of_fresh {table : Table Key Value} {key : Key} (fresh : key ∉ table.keys)
    (value : Value) : (table.put key value).entries = table.entries ++ [(key, value)] := by
  obtain ⟨entries⟩ := table
  induction entries with
  | nil => rfl
  | cons head rest ih =>
    have apart : ¬ head.1 = key := fun equal => fresh (equal ▸ List.mem_cons_self)
    have later : store key value rest = rest ++ [(key, value)] :=
      ih fun present => fresh (List.mem_cons_of_mem _ present)
    simp [put, store, apart, later]

/-- A known key keeps its place, and only its value changes. -/
theorem entries_put_of_find? {table : Table Key Value} {key : Key} {old : Value}
    (found : table.find? key = some old) (value : Value) :
    ∃ before after, table.entries = before ++ (key, old) :: after ∧
      (table.put key value).entries = before ++ (key, value) :: after := by
  obtain ⟨entries⟩ := table
  induction entries with
  | nil => cases found
  | cons head rest ih =>
    by_cases same : head.1 = key
    · have held : head.2 = old := by simpa [find?, lookup, same] using found
      refine ⟨[], rest, ?_, ?_⟩
      · rw [← same, ← held]
        rfl
      · simp [put, store, same]
    · have later : find? ⟨rest⟩ key = some old := by simpa [find?, lookup, same] using found
      obtain ⟨before, after, split, changed⟩ := ih later
      have split : rest = before ++ (key, old) :: after := split
      have changed : store key value rest = before ++ (key, value) :: after := changed
      refine ⟨head :: before, after, ?_, ?_⟩
      · rw [split]
        rfl
      · simp [put, store, same, changed]

end Table
end SchemeTyping
