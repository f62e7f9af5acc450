import SchemeTyping.Conversion.Ledger

/-! What one record changes in a ledger: its conversion comes behind the others of its identifier, and its
key comes to be seen unless it was before. -/
namespace SchemeTyping.Ledger
variable {ledger : Ledger} {identifier : String} {conversion : Conversion} {key : ConversionKey}
  {sighting : Sighting}

theorem isFresh_iff : ledger.isFresh key = true ↔ key ∉ ledger.seen.keys := by
  rw [isFresh, Bool.not_eq_true', ← Bool.not_eq_true, Table.contains_iff]

theorem isFresh_eq_false (known : key ∈ ledger.seen.keys) : ledger.isFresh key = false :=
  Bool.eq_false_iff.mpr fun fresh => isFresh_iff.mp fresh known

theorem conversionsFor_record (other : String) :
    (ledger.record identifier conversion key sighting).conversionsFor other =
      ledger.conversionsFor other ++ if identifier = other then [conversion] else [] := by
  simp only [conversionsFor, record, Table.find?_put]
  by_cases own : identifier = other
  · rw [if_pos own.symm, if_pos own, own]
    rfl
  · rw [if_neg (Ne.symm own), if_neg own, List.append_nil]

/-- A key that was seen before keeps its place, and any other comes last. -/
theorem keys_seen_record : (ledger.record identifier conversion key sighting).seen.keys =
    ledger.seen.keys ++ if ledger.isFresh key then [key] else [] := by
  by_cases fresh : ledger.isFresh key = true
  · simp only [record, if_pos fresh, Table.keys_put, if_neg (isFresh_iff.mp fresh)]
  · simp only [record, if_neg fresh, List.append_nil]

/-- Under a key stands what came with it first. -/
theorem find?_seen_record (other : ConversionKey) :
    (ledger.record identifier conversion key sighting).seen.find? other =
      (ledger.seen.find? other).or (if key = other then some sighting else none) := by
  by_cases fresh : ledger.isFresh key = true
  · simp only [record, if_pos fresh, Table.find?_put, eq_comm (a := other)]
    split
    · next own =>
      have unseen : ledger.seen.find? other = none := by
        rw [← own, ← Option.not_isSome_iff_eq_none]
        exact fun seen => isFresh_iff.mp fresh (Table.contains_iff.mp seen)
      rw [unseen, Option.none_or]
    · rw [Option.or_none]
  · simp only [record, if_neg fresh]
    split
    · next own =>
      have known : ledger.seen.contains other = true := by
        rw [← own]
        simpa [isFresh] using fresh
      rw [Option.or_of_isSome known]
    · rw [Option.or_none]

/-- Every conversion is listed, also one that is not reported. -/
theorem toList_record : List.Perm (ledger.record identifier conversion key sighting).toList
    ((identifier, conversion) :: ledger.toList) := by
  unfold toList record conversionsFor
  cases found : ledger.conversions.find? identifier with
  | none =>
    have fresh : identifier ∉ ledger.conversions.keys := by
      rw [← Table.contains_iff, Table.contains, found]
      simp
    simp [Table.entries_put_of_fresh fresh]
  | some old =>
    obtain ⟨before, after, parted, changed⟩ :=
      Table.entries_put_of_find? found (old ++ [conversion])
    simp only [Option.getD_some, changed, parted, List.flatMap_append, List.flatMap_cons, List.map_append,
      List.map_cons, List.map_nil, List.append_assoc, List.singleton_append]
    rw [← List.append_assoc, ← List.append_assoc]
    exact List.perm_middle

theorem mem_toList {listed : String × Conversion} : listed ∈ ledger.toList ↔
    ∃ entry ∈ ledger.conversions.entries, listed.1 = entry.1 ∧ listed.2 ∈ entry.2 := by
  simp only [toList, List.mem_flatMap, List.mem_map]
  constructor
  · rintro ⟨entry, member, conversion, inside, rfl⟩
    exact ⟨entry, member, rfl, inside⟩
  · rintro ⟨entry, member, own, inside⟩
    exact ⟨entry, member, listed.2, inside, Prod.ext own.symm rfl⟩

theorem mem_toList_of_find? {conversions : List Conversion}
    (found : ledger.conversions.find? identifier = some conversions) (member : conversion ∈ conversions) :
    (identifier, conversion) ∈ ledger.toList := by
  obtain ⟨before, after, parted, _⟩ := Table.entries_put_of_find? found conversions
  exact mem_toList.mpr ⟨(identifier, conversions), by simp [parted], rfl, member⟩

theorem length_toList (ledger : Ledger) : ledger.toList.length = ledger.total := by
  obtain ⟨⟨entries⟩, _⟩ := ledger
  simp [toList, total, Table.values, List.length_flatMap, List.length_flatten, Function.comp_def]

/-- Every conversion counts, also one that is not reported. -/
theorem total_record : (ledger.record identifier conversion key sighting).total = ledger.total + 1 := by
  rw [← length_toList, ← length_toList, toList_record.length_eq, List.length_cons]

end SchemeTyping.Ledger
