import SchemeTyping.Proofs.Json.Tokens
import SchemeTyping.Proofs.Table

/-! Printing and reading back. A value whose records have no key twice is what its text is read as, in any
layout; and records with sorted keys are determined by their fields in any order. -/
namespace SchemeTyping.Json
variable {accepts : Int → Bool} {value : Value} {items : List Value} {fields : List (String × Value)}
  {outer : List Frame} {tokens : List Token}

/-- No record in a value has a key twice. -/
inductive Value.Distinct : Value → Prop where
  | null : Distinct .null
  | flag (value : Bool) : Distinct (.flag value)
  | number (value : Int) : Distinct (.number value)
  | text (value : String) : Distinct (.text value)
  | list {items : List Value} (each : ∀ item ∈ items, item.Distinct) : Distinct (.list items)
  | record {fields : List (String × Value)} (keys : (fields.map Prod.fst).Nodup)
      (each : ∀ field ∈ fields, field.2.Distinct) : Distinct (.record fields)

/-! ### Reading tokens -/

/-- Where a value may begin, its tokens lead to where it is complete. -/
def Value.Completes (value : Value) : Prop :=
  ∀ outer, value.tokens.foldlM State.step? (.value outer) = some (.done outer value)

theorem foldlM_append {first second : List Token} {state next : State}
    (taken : first.foldlM State.step? state = some next) :
    (first ++ second).foldlM State.step? state = second.foldlM State.step? next := by
  rw [List.foldlM_append, taken]
  rfl

/-- The first item of a list is read as any value is. -/
theorem foldlM_firstItem (value : Value) (outer : List Frame) (tokens : List Token) :
    (value.tokens ++ tokens).foldlM State.step? (.firstItem outer) =
      (value.tokens ++ tokens).foldlM State.step? (.value (.list [] :: outer)) := by
  match value with
  | .null => rfl
  | .flag _ => rfl
  | .number _ => rfl
  | .text _ => rfl
  | .list [] => rfl
  | .list (_ :: _) => rfl
  | .record [] => rfl
  | .record (_ :: _) => rfl

/-- Items behind another one are read up to the end of their list. -/
theorem foldlM_itemTokens (each : ∀ item ∈ items, item.Completes) (front : List Value) (last : Value) :
    (itemTokens items ++ [Token.closeList]).foldlM State.step? (.done (.list front :: outer) last) =
      some (.done outer (.list (front ++ last :: items))) := by
  -- The closing token is part of the statement, so that the last item need not be named in it.
  induction items generalizing front last with
  | nil => rfl
  | cons item rest ih =>
    obtain ⟨own, later⟩ := List.forall_mem_cons.mp each
    rw [itemTokens, List.cons_append, List.append_assoc]
    change (item.tokens ++ (itemTokens rest ++ [Token.closeList])).foldlM State.step?
      (.value (.list (front ++ [last]) :: outer)) = _
    rw [foldlM_append (own _), ih later, List.append_assoc]
    rfl

/-- Fields behind another one are read up to the end of their record. -/
theorem foldlM_fieldTokens (each : ∀ field ∈ fields, field.2.Completes)
    (front : List (String × Value)) (key : String) (last : Value) :
    (fieldTokens fields ++ [Token.closeRecord]).foldlM State.step? (.done (.record front key :: outer) last) =
      some (.done outer (.ofFields (front ++ (key, last) :: fields))) := by
  induction fields generalizing front key last with
  | nil => rfl
  | cons field rest ih =>
    obtain ⟨next, value⟩ := field
    obtain ⟨own, later⟩ := List.forall_mem_cons.mp each
    simp only [fieldTokens, List.cons_append, List.append_assoc]
    change (value.tokens ++ (fieldTokens rest ++ [Token.closeRecord])).foldlM State.step?
      (.value (.record (front ++ [(key, last)]) next :: outer)) = _
    rw [foldlM_append (own _), ih later, List.append_assoc]
    rfl

theorem Value.Distinct.completes (distinct : value.Distinct) : value.Completes := by
  intro outer
  induction distinct generalizing outer with
  | null => rfl
  | flag value => rfl
  | number value => rfl
  | text value => rfl
  | @list items each ih =>
    cases items with
    | nil => rfl
    | cons item rest =>
      obtain ⟨own, later⟩ := List.forall_mem_cons.mp ih
      rw [Value.tokens, List.append_assoc]
      change (item.tokens ++ (itemTokens rest ++ [Token.closeList])).foldlM State.step? (.firstItem outer) = _
      rw [foldlM_firstItem, foldlM_append (own _), foldlM_itemTokens later]
      rfl
  | @record fields keys each ih =>
    cases fields with
    | nil => rfl
    | cons field rest =>
      obtain ⟨key, value⟩ := field
      obtain ⟨own, later⟩ := List.forall_mem_cons.mp ih
      rw [Value.tokens, List.append_assoc]
      change (value.tokens ++ (fieldTokens rest ++ [Token.closeRecord])).foldlM State.step?
        (.value (.record [] key :: outer)) = _
      rw [foldlM_append (own _), foldlM_fieldTokens later, List.nil_append, Value.ofFields,
        Table.entries_ofList keys]

/-- What is printed is read back, also if characters that are no tokens follow. -/
theorem read?_print_append (distinct : value.Distinct)
    (accepted : ∀ number ∈ value.numbers, accepts number = true) (layout : Layout) {behind : String}
    (ends : Ends behind.toList) (bare : tokens? accepts behind.toList = some []) :
    read? accepts (value.print layout ++ behind) = some value := by
  rw [read?, Value.print, String.toList_append, tokens?_printAt layout 0 value accepted ends, bare]
  simp only [Option.map_some, Option.bind_some, List.append_nil]
  rw [distinct.completes]
  rfl

theorem read?_print (distinct : value.Distinct)
    (accepted : ∀ number ∈ value.numbers, accepts number = true) (layout : Layout) :
    read? accepts (value.print layout) = some value := by
  have ends : Ends "".toList := ends_nil
  have bare : tokens? accepts "".toList = some [] := by
    rw [tokens?.eq_def]
    rfl
  have read := read?_print_append distinct accepted layout ends bare
  rwa [String.append_empty] at read

theorem mem_itemNumbers {number : Int} :
    number ∈ itemNumbers items ↔ ∃ item ∈ items, number ∈ item.numbers := by
  induction items with
  | nil => simp [itemNumbers]
  | cons item rest ih => simp [itemNumbers, ih]

theorem mem_fieldNumbers {number : Int} :
    number ∈ fieldNumbers fields ↔ ∃ field ∈ fields, number ∈ field.2.numbers := by
  induction fields with
  | nil => simp [fieldNumbers]
  | cons field rest ih => simp [fieldNumbers, ih]

/-! ### Sorting fields -/

variable {Content : Type} {first second : List (String × Content)}

theorem sortFields_perm (fields : List (String × Content)) : (sortFields fields).Perm fields :=
  List.mergeSort_perm _ _

theorem pairwise_sortFields (fields : List (String × Content)) :
    (sortFields fields).Pairwise fun before after => before.1 ≤ after.1 := by
  have ordered : (sortFields fields).Pairwise fun before after => decide (before.1 ≤ after.1) = true := by
    refine List.pairwise_mergeSort ?_ ?_ fields
    · intro first second third below above
      exact decide_eq_true (String.le_trans (of_decide_eq_true below) (of_decide_eq_true above))
    · intro first second
      rw [Bool.or_eq_true, decide_eq_true_eq, decide_eq_true_eq]
      exact String.le_total first.1 second.1
  exact ordered.imp of_decide_eq_true

/-- Fields in the order of their keys are what they are sorted to. -/
theorem sortFields_eq (distinct : (second.map Prod.fst).Nodup) (same : first.Perm second)
    (ordered : second.Pairwise fun before after => before.1 ≤ after.1) : sortFields first = second := by
  have perm : (sortFields first).Perm second := (sortFields_perm first).trans same
  refine perm.eq_of_pairwise ?_ (pairwise_sortFields first) ordered
  intro before after member other below above
  exact List.inj_on_of_nodup_map distinct (perm.mem_iff.mp member) other (String.le_antisymm below above)

/-- Fields whose keys stand as in a sorted list are what they are sorted to. -/
theorem sortFields_of_sublist (keys : List String) (listed : (second.map Prod.fst).Sublist keys)
    (same : first.Perm second) (ordered : keys.Pairwise (· < ·)) : sortFields first = second := by
  have distinct : keys.Nodup := by
    refine List.Pairwise.imp ?_ ordered
    rintro key _ below rfl
    exact String.lt_irrefl key below
  have above : keys.Pairwise (· ≤ ·) := ordered.imp fun below => String.not_lt.mp (String.lt_asymm below)
  exact sortFields_eq (listed.nodup distinct) same (List.pairwise_map.mp (above.sublist listed))

/-- Fields are sorted to the same exactly if they are the same in some order. -/
theorem sortFields_eq_iff (distinct : (second.map Prod.fst).Nodup) :
    sortFields first = sortFields second ↔ first.Perm second := by
  constructor
  · intro same
    exact (sortFields_perm first).symm.trans (same ▸ sortFields_perm second)
  · intro same
    have keys : ((sortFields second).map Prod.fst).Nodup :=
      ((sortFields_perm second).map Prod.fst).nodup_iff.mpr distinct
    exact sortFields_eq keys (same.trans (sortFields_perm second).symm) (pairwise_sortFields second)

theorem sortedItems_eq (items : List Value) : sortedItems items = items.map Value.sorted := by
  induction items with
  | nil => rfl
  | cons item rest ih => rw [sortedItems, ih, List.map_cons]

theorem sortedFields_eq (fields : List (String × Value)) :
    sortedFields fields = fields.map fun field => (field.1, field.2.sorted) := by
  induction fields with
  | nil => rfl
  | cons field rest ih => rw [sortedFields, ih, List.map_cons]

end SchemeTyping.Json
