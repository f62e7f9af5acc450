import Mathlib.Data.List.Nodup
import SchemeTyping.Table

/-! Tables in which no key stands twice, which are those that are built by putting pairs. What is found in
them determines them up to the order of the keys. -/
namespace SchemeTyping.Table
variable {Key Value : Type} [DecidableEq Key] {table first second : Table Key Value}

theorem find?_cons (key other : Key) (value : Value) (rest : List (Key × Value)) :
    (⟨(key, value) :: rest⟩ : Table Key Value).find? other =
      if key = other then some value else (⟨rest⟩ : Table Key Value).find? other := by
  rw [find?_eq, find?_eq, List.find?_cons]
  by_cases same : key = other
  · simp [same]
  · simp [beq_eq_false_iff_ne.mpr same, same]

/-- The entries are the keys in their order, each with what is found under it. -/
theorem entries_eq (distinct : table.keys.Nodup) (missing : Value) :
    table.entries = table.keys.map fun key => (key, (table.find? key).getD missing) := by
  obtain ⟨entries⟩ := table
  induction entries with
  | nil => rfl
  | cons entry rest ih =>
    obtain ⟨key, value⟩ := entry
    obtain ⟨apart, later⟩ := List.nodup_cons.mp distinct
    have own : (⟨(key, value) :: rest⟩ : Table Key Value).find? key = some value := by
      rw [find?_cons, if_pos rfl]
    have behind : ∀ other ∈ (⟨rest⟩ : Table Key Value).keys,
        (⟨(key, value) :: rest⟩ : Table Key Value).find? other =
          (⟨rest⟩ : Table Key Value).find? other := by
      intro other member
      rw [find?_cons, if_neg]
      rintro rfl
      exact apart member
    show (key, value) :: rest = (key, _) :: List.map _ (⟨rest⟩ : Table Key Value).keys
    rw [own, List.map_congr_left fun other member => by rw [behind other member]]
    exact congrArg _ (ih later)

theorem find?_of_mem (distinct : table.keys.Nodup) {key : Key} {value : Value}
    (member : (key, value) ∈ table.entries) : table.find? key = some value := by
  rw [entries_eq distinct value] at member
  obtain ⟨_, known, same⟩ := List.mem_map.mp member
  obtain ⟨rfl, held⟩ := Prod.mk.inj same
  obtain ⟨inner, found⟩ := Option.isSome_iff_exists.mp (contains_iff.mpr known)
  rw [found] at held ⊢
  exact congrArg some held

theorem mem_entries_iff (distinct : table.keys.Nodup) {key : Key} {value : Value} :
    (key, value) ∈ table.entries ↔ table.find? key = some value := by
  refine ⟨find?_of_mem distinct, fun found => ?_⟩
  obtain ⟨before, after, parted, _⟩ := entries_put_of_find? found value
  simp [parted]

/-- Pairs without repeats make up the table of their entries. -/
theorem entries_ofList {pairs : List (Key × Value)} (distinct : (pairs.map Prod.fst).Nodup) :
    (ofList pairs).entries = pairs := by
  have onto : ∀ table : Table Key Value, (∀ key ∈ table.keys, key ∉ pairs.map Prod.fst) →
      (pairs.foldl (fun table pair => table.put pair.1 pair.2) table).entries =
        table.entries ++ pairs := by
    induction pairs with
    | nil => intro table _; exact (List.append_nil _).symm
    | cons pair rest ih =>
      intro table apart
      obtain ⟨single, later⟩ := List.nodup_cons.mp distinct
      have fresh : pair.1 ∉ table.keys := fun known => apart _ known List.mem_cons_self
      rw [List.foldl_cons, ih later, entries_put_of_fresh fresh, List.append_assoc]
      · rfl
      · intro key known
        rw [keys_put, if_neg fresh, List.mem_append, List.mem_singleton] at known
        rcases known with known | rfl
        · exact fun member => apart key known (List.mem_cons_of_mem _ member)
        · exact single
  exact onto empty fun _ known => absurd known List.not_mem_nil

/-- Carrying values on to others changes nothing but what is found. -/
theorem find?_map {OtherValue : Type} (carry : Value → OtherValue) (key : Key) :
    (⟨table.entries.map fun entry => (entry.1, carry entry.2)⟩ : Table Key OtherValue).find? key =
      (table.find? key).map carry := by
  obtain ⟨entries⟩ := table
  induction entries with
  | nil => rfl
  | cons entry rest ih =>
    rw [List.map_cons, find?_cons, find?_cons, ih]
    split
    · rfl
    · rfl

/-- In two tables the same is found exactly if they hold the same entries in some order. -/
theorem perm_entries_iff (distinctFirst : first.keys.Nodup) (distinctSecond : second.keys.Nodup) :
    first.entries.Perm second.entries ↔ ∀ key, first.find? key = second.find? key := by
  rw [List.perm_ext_iff_of_nodup (.of_map _ distinctFirst) (.of_map _ distinctSecond)]
  simp only [Prod.forall, mem_entries_iff distinctFirst, mem_entries_iff distinctSecond]
  exact forall_congr' fun key => Option.ext_iff.symm

end SchemeTyping.Table
