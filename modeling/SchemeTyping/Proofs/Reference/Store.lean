import Mathlib.Data.List.Nodup
import SchemeTyping.Reference.Store

/-! What is found in a store: a reference by its identifier, which tells the references of a store apart
as it does their entities. A store can be put together from its references in any order, and the same is
found in it. -/
namespace SchemeTyping

/-- Items that a key tells apart are found by their key. -/
theorem find?_of_nodup_map {Item Key : Type} [BEq Key] [LawfulBEq Key] {key : Item → Key}
    {items : List Item} {item : Item} (distinct : (items.map key).Nodup) (member : item ∈ items) :
    items.find? (fun other => key other == key item) = some item := by
  induction items with
  | nil => cases member
  | cons first rest ih =>
    obtain ⟨absent, distinctRest⟩ := List.nodup_cons.mp (List.map_cons ▸ distinct)
    rcases List.mem_cons.mp member with rfl | later
    · simp
    · have apart : key first ≠ key item := fun same =>
        absent (same ▸ List.mem_map.mpr ⟨item, later, rfl⟩)
      rw [List.find?_cons_of_neg (by simpa using apart)]
      exact ih distinctRest later

/-- Items that a partial key tells apart are the same if they have the same key. -/
theorem eq_of_nodup_filterMap {Item Key : Type} {key : Item → Option Key} {items : List Item}
    (distinct : (items.filterMap key).Nodup) {first second : Item} {value : Key}
    (firstMember : first ∈ items) (secondMember : second ∈ items) (firstKey : key first = some value)
    (secondKey : key second = some value) : first = second := by
  induction items with
  | nil => cases firstMember
  | cons head rest ih =>
    have distinctRest : (rest.filterMap key).Nodup :=
      ((List.sublist_cons_self head rest).filterMap key).nodup distinct
    have absent : ∀ other ∈ rest, key other = some value → key head ≠ some value := by
      intro other later held same
      rw [List.filterMap_cons, same] at distinct
      exact (List.nodup_cons.mp distinct).1 (List.mem_filterMap.mpr ⟨other, later, held⟩)
    rcases List.mem_cons.mp firstMember with rfl | firstLater
    · rcases List.mem_cons.mp secondMember with rfl | secondLater
      · rfl
      · exact absurd firstKey (absent second secondLater secondKey)
    · rcases List.mem_cons.mp secondMember with rfl | secondLater
      · exact absurd secondKey (absent first firstLater firstKey)
      · exact ih distinctRest firstLater secondLater

/-- What only one item can be is found in any order. -/
theorem find?_perm {Item : Type} {items others : List Item} {hits : Item → Bool}
    (reordered : items.Perm others)
    (unique : ∀ first ∈ items, ∀ second ∈ items, hits first = true → hits second = true →
      first = second) : items.find? hits = others.find? hits := by
  cases found : items.find? hits with
  | none =>
    have absent := List.find?_eq_none.mp found
    exact (List.find?_eq_none.mpr fun item member =>
      absent item (reordered.mem_iff.mpr member)).symm
  | some item =>
    have member := List.mem_of_find?_eq_some found
    have hit := List.find?_some found
    cases refound : others.find? hits with
    | none => exact absurd hit (List.find?_eq_none.mp refound item (reordered.mem_iff.mp member))
    | some other =>
      rw [unique item member other (reordered.mem_iff.mpr (List.mem_of_find?_eq_some refound)) hit
        (List.find?_some refound)]

theorem Reference.declaredElement?_eq_some {reference : Reference} {element : String} :
    reference.declaredElement? = some element ↔
      reference.kind.isDeclaration = true ∧ reference.element = some element := by
  unfold declaredElement?
  split
  · next declares => simp [declares]
  · next other => simp [other]

namespace Store
variable {store next : Store} {reference declaration : Reference} {identifier element : String}

/-- A reference that is added stands last, and none of its identifier was there. -/
theorem add_eq_ok (added : store.add reference = .ok next) :
    next.references = store.references ++ [reference] ∧
      reference.identifier ∉ store.identifiers := by
  unfold add at added
  split at added
  · cases added
  · next free =>
    cases added
    exact ⟨rfl, fresh_of_no_obstacle free⟩

theorem contains_iff : store.contains identifier = true ↔ identifier ∈ store.identifiers := by
  simp only [contains, find?, List.find?_isSome, identifiers, List.mem_map, beq_iff_eq]

theorem find?_eq_some (found : store.find? identifier = some reference) :
    reference ∈ store.references ∧ reference.identifier = identifier :=
  ⟨List.mem_of_find?_eq_some found, by simpa using List.find?_some found⟩

theorem find?_eq_none : store.find? identifier = none ↔ identifier ∉ store.identifiers := by
  simp only [find?, List.find?_eq_none, identifiers, List.mem_map, beq_iff_eq, not_exists, not_and]

/-- Adding keeps what was found before. -/
theorem find?_of_add (added : store.add reference = .ok next) {found : Reference}
    (before : store.find? identifier = some found) : next.find? identifier = some found := by
  obtain ⟨listed, _⟩ := add_eq_ok added
  simp only [find?] at before ⊢
  rw [listed, List.find?_append, before]
  rfl

theorem find?_of_mem (member : reference ∈ store.references) :
    store.find? reference.identifier = some reference :=
  find?_of_nodup_map store.distinct member

theorem find?_added (added : store.add reference = .ok next) :
    next.find? reference.identifier = some reference := by
  obtain ⟨listed, fresh⟩ := add_eq_ok added
  have absent : store.find? reference.identifier = none := by
    refine List.find?_eq_none.mpr fun other member same => fresh ?_
    exact List.mem_map.mpr ⟨other, member, by simpa using same⟩
  simp only [find?] at absent ⊢
  rw [listed, List.find?_append, absent]
  simp

/-- References are found under their own identifiers and nothing else is found. -/
theorem find?_iff : store.find? identifier = some reference ↔
    reference ∈ store.references ∧ reference.identifier = identifier := by
  constructor
  · exact find?_eq_some
  · rintro ⟨member, rfl⟩
    exact find?_of_mem member

/-- The owner of an element is the one declaration of it. -/
theorem owner?_iff : store.owner? element = some declaration ↔
    declaration ∈ store.references ∧ declaration.declaredElement? = some element := by
  constructor
  · intro found
    exact ⟨List.mem_of_find?_eq_some found, by simpa using List.find?_some found⟩
  · rintro ⟨member, declares⟩
    cases found : store.owner? element with
    | none =>
      have absent := List.find?_eq_none.mp found declaration member
      simp [declares] at absent
    | some owner =>
      have owns : owner.declaredElement? = some element := by simpa using List.find?_some found
      exact congrArg some
        (eq_of_nodup_filterMap store.owned (List.mem_of_find?_eq_some found) member owns declares)

/-- What keeps a reference out: its identifier, or else its element. -/
theorem obstacle?_eq_some {fault : Fault} : store.obstacle? reference = some fault ↔
    reference.identifier ∈ store.identifiers ∧ fault = .identifierTaken reference.identifier ∨
    reference.identifier ∉ store.identifiers ∧ ∃ element, reference.declaredElement? = some element ∧
      ∃ owner, store.owner? element = some owner ∧ fault = .elementTaken element owner.identifier := by
  unfold obstacle?
  split
  · next taken => simp [taken, eq_comm]
  · next free =>
    cases declares : reference.declaredElement? with
    | none => simp [free]
    | some element =>
      simp only [free, false_and, not_false_eq_true, true_and, false_or, Option.map_eq_some_iff,
        Option.some.injEq, exists_eq_left']
      constructor
      · rintro ⟨owner, owns, same⟩
        exact ⟨owner, owns, same.symm⟩
      · rintro ⟨owner, owns, same⟩
        exact ⟨owner, owns, same.symm⟩

theorem add_eq_error {fault : Fault} :
    store.add reference = .error fault ↔ store.obstacle? reference = some fault := by
  constructor
  · intro refused
    unfold add at refused
    split at refused
    · next other obstacle => exact obstacle.trans (congrArg some (Except.error.inj refused))
    · cases refused
  · intro obstacle
    unfold add
    split
    · next other found => exact congrArg Except.error (Option.some.inj (found.symm.trans obstacle))
    · next free =>
      rw [obstacle] at free
      cases free

/-- The declaration of a reference is the stored one that owns its element. -/
theorem declarationOf?_iff : store.declarationOf? reference = some declaration ↔
    declaration ∈ store.references ∧ declaration.kind.isDeclaration = true ∧
      ∃ element, reference.element = some element ∧ declaration.element = some element := by
  simp only [declarationOf?, Option.bind_eq_some_iff, owner?_iff, Reference.declaredElement?_eq_some]
  constructor
  · rintro ⟨element, shared, member, declares, own⟩
    exact ⟨member, declares, element, shared, own⟩
  · rintro ⟨member, declares, element, shared, own⟩
    exact ⟨element, shared, member, declares, own⟩

/-- A reference is refused if its identifier is taken, or if it is a declaration whose element is. -/
theorem refused_iff : (∃ fault, store.add reference = .error fault) ↔
    reference.identifier ∈ store.identifiers ∨
      reference.kind.isDeclaration = true ∧ ∃ element, reference.element = some element ∧
        ∃ owner ∈ store.references, owner.kind.isDeclaration = true ∧ owner.element = some element := by
  simp only [add_eq_error, obstacle?_eq_some]
  by_cases taken : reference.identifier ∈ store.identifiers
  · simp [taken]
  · simp only [taken, false_and, false_or, not_false_eq_true, true_and]
    constructor
    · rintro ⟨_, element, declares, owner, owns, _⟩
      obtain ⟨declaration, shared⟩ := Reference.declaredElement?_eq_some.mp declares
      obtain ⟨member, own⟩ := owner?_iff.mp owns
      exact ⟨declaration, element, shared, owner, member, Reference.declaredElement?_eq_some.mp own⟩
    · rintro ⟨declaration, element, shared, owner, member, own⟩
      exact ⟨_, element, Reference.declaredElement?_eq_some.mpr ⟨declaration, shared⟩, owner,
        owner?_iff.mpr ⟨member, Reference.declaredElement?_eq_some.mpr own⟩, rfl⟩

/-- Entities of one store are told apart by their identifiers. -/
theorem nodup_entities (store : Store) : (store.references.map Reference.entity).Nodup := by
  have distinct : ((store.references.map Reference.entity).map Entity.identifier).Nodup := by
    rw [List.map_map]
    exact store.distinct
  exact List.Pairwise.of_map Entity.identifier
    (fun _ _ apart same => apart (congrArg Entity.identifier same)) distinct

theorem eq_of_references {first second : Store} (same : first.references = second.references) :
    first = second := by
  cases first
  cases second
  cases same
  rfl

/-- Nothing keeps a reference out of the first part of a store that it belongs to. -/
theorem no_obstacle {whole : Store} {rest : List Reference}
    (listed : whole.references = store.references ++ reference :: rest) :
    store.obstacle? reference = none := by
  have distinct := whole.distinct
  have owned := whole.owned
  rw [listed, List.map_append, List.map_cons] at distinct
  rw [listed, List.filterMap_append] at owned
  have fresh : reference.identifier ∉ store.identifiers := fun taken =>
    (List.nodup_append.mp distinct).2.2 _ taken _ List.mem_cons_self rfl
  rw [obstacle?, if_neg fresh]
  cases declares : reference.declaredElement? with
  | none => rfl
  | some element =>
    have unowned : store.owner? element = none := by
      refine List.find?_eq_none.mpr fun owner member owns => ?_
      have present : element ∈ store.references.filterMap Reference.declaredElement? :=
        List.mem_filterMap.mpr ⟨owner, member, by simpa using owns⟩
      rw [List.filterMap_cons, declares] at owned
      exact (List.nodup_append.mp owned).2.2 _ present _ List.mem_cons_self rfl
    simp only [unowned, Option.map_none]

theorem add_of_no_obstacle (free : store.obstacle? reference = none) :
    ∃ next, store.add reference = .ok next := by
  unfold add
  split
  · next fault obstacle =>
    rw [free] at obstacle
    cases obstacle
  · exact ⟨_, rfl⟩

theorem foldlM_add_eq_ok {references : List Reference} {whole : Store} :
    references.foldlM add store = .ok whole ↔ whole.references = store.references ++ references := by
  induction references generalizing store with
  | nil =>
    rw [List.append_nil]
    constructor
    · intro same
      cases same
      rfl
    · exact fun same => congrArg Except.ok (eq_of_references same.symm)
  | cons reference rest ih =>
    rw [List.foldlM_cons]
    constructor
    · intro completed
      cases added : store.add reference with
      | error fault =>
        rw [added] at completed
        cases completed
      | ok next =>
        rw [added] at completed
        have listed := ih.mp completed
        rw [listed, (add_eq_ok added).1, List.append_assoc]
        rfl
    · intro listed
      obtain ⟨next, added⟩ := add_of_no_obstacle (no_obstacle listed)
      rw [added]
      refine ih.mpr ?_
      rw [listed, (add_eq_ok added).1, List.append_assoc]
      rfl

/-- A store is put together from exactly its references. -/
theorem ofList_eq_ok {references : List Reference} :
    ofList references = .ok store ↔ store.references = references := by
  rw [ofList, foldlM_add_eq_ok]
  exact Iff.rfl

/-- Whatever can be put together in one order can be in any other. -/
theorem ofList_perm {references others : List Reference} (reordered : references.Perm others)
    (built : ofList references = .ok store) :
    ∃ other, ofList others = .ok other ∧ store.references.Perm other.references := by
  have listed := ofList_eq_ok.mp built
  have distinct := store.distinct
  have owned := store.owned
  rw [listed] at distinct owned
  let other : Store :=
    ⟨others, (reordered.map _).nodup_iff.mp distinct, (reordered.filterMap _).nodup_iff.mp owned⟩
  exact ⟨other, ofList_eq_ok.mpr rfl, listed ▸ reordered⟩

section Reordering
variable {first second : Store} (reordered : first.references.Perm second.references)
include reordered

theorem find?_reordered (identifier : String) : first.find? identifier = second.find? identifier :=
  find?_perm reordered fun _ member _ otherMember hit otherHit =>
    List.inj_on_of_nodup_map first.distinct member otherMember
      ((beq_iff_eq.mp hit).trans (beq_iff_eq.mp otherHit).symm)

theorem owner?_reordered (element : String) : first.owner? element = second.owner? element :=
  find?_perm reordered fun _ member _ otherMember hit otherHit =>
    eq_of_nodup_filterMap first.owned member otherMember (beq_iff_eq.mp hit) (beq_iff_eq.mp otherHit)

theorem declarationOf?_reordered (reference : Reference) :
    first.declarationOf? reference = second.declarationOf? reference := by
  rw [declarationOf?, declarationOf?]
  exact congrArg _ (funext (owner?_reordered reordered))

end Reordering

end Store

end SchemeTyping
