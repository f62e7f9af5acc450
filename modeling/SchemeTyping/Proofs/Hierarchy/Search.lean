import Mathlib.Data.List.Dedup
import SchemeTyping.Proofs.Hierarchy.Building
import SchemeTyping.Proofs.Hierarchy.Reachability

/-! Searching a hierarchy from one name. The search takes up the name that it met last and follows its
edges in whatever order; it takes up each name once, so that it ends along any cycle, and then it has met
exactly the supertypes of the name it started from. -/
namespace SchemeTyping
namespace Hierarchy

/-- A search under way: the names met so far, and those of them whose edges are still to be followed. -/
structure Search where
  met : List String
  pending : List String

namespace Search

/-- A search that has met nothing but the name it starts from. -/
def start (origin : String) : Search := ⟨[origin], [origin]⟩

/-- Meet a name. One that is new is to be taken up next. -/
def meet (search : Search) (name : String) : Search :=
  if name ∈ search.met then search else ⟨name :: search.met, name :: search.pending⟩

def meetAll (search : Search) (names : List String) : Search := names.foldl meet search

/-- Take up the first pending name and meet the upper ends of its edges, each once and in any order. -/
inductive Step (edges : List Edge) : Search → Search → Prop where
  | follow {met pending : List String} {name : String} (uppers : List String) (once : uppers.Nodup)
      (all : ∀ upper, upper ∈ uppers ↔ ∃ edge ∈ edges, edge.lower = name ∧ edge.upper = upper) :
      Step edges ⟨met, name :: pending⟩ (meetAll ⟨met, pending⟩ uppers)

/-- A number of steps one after the other. -/
inductive Run (edges : List Edge) : Nat → Search → Search → Prop where
  | done (search : Search) : Run edges 0 search search
  | further {count : Nat} {first second third : Search} (run : Run edges count first second)
      (step : Step edges second third) : Run edges (count + 1) first third

/-! Meeting names. -/

variable {search next : Search} {names : List String} {name origin : String}

theorem mem_met_meetAll :
    name ∈ (search.meetAll names).met ↔ name ∈ search.met ∨ name ∈ names := by
  induction names generalizing search with
  | nil => simp [meetAll]
  | cons first rest ih =>
    have head : name ∈ (search.meet first).met ↔ name ∈ search.met ∨ name = first := by
      unfold meet
      split
      · next known => exact ⟨.inl, fun found => found.elim id fun same => same ▸ known⟩
      · rw [List.mem_cons, or_comm]
    rw [meetAll, List.foldl_cons, ← meetAll, ih, head, List.mem_cons, or_assoc]

/-- A name is pending if it was before, or if it is new. -/
theorem mem_pending_meetAll : name ∈ (search.meetAll names).pending ↔
    name ∈ search.pending ∨ name ∈ names ∧ name ∉ search.met := by
  induction names generalizing search with
  | nil => simp [meetAll]
  | cons first rest ih =>
    rw [meetAll, List.foldl_cons, ← meetAll, ih]
    unfold meet
    split
    · next known =>
      have apart : name ∉ search.met → name ≠ first := fun new same => new (same ▸ known)
      rw [List.mem_cons]
      tauto
    · next new =>
      by_cases same : name = first
      · simp [same, new]
      · simp [same]

theorem nodup_meetAll (distinct : search.met.Nodup) : (search.meetAll names).met.Nodup := by
  induction names generalizing search with
  | nil => exact distinct
  | cons first rest ih =>
    refine ih ?_
    unfold meet
    split
    · exact distinct
    · next new => exact List.nodup_cons.mpr ⟨new, distinct⟩

/-- Meeting names adds as many to the pending ones as to the met ones. -/
theorem length_meetAll (search : Search) (names : List String) :
    (search.meetAll names).met.length + search.pending.length =
    (search.meetAll names).pending.length + search.met.length := by
  induction names generalizing search with
  | nil => exact Nat.add_comm ..
  | cons first rest ih =>
    rw [meetAll, List.foldl_cons, ← meetAll]
    have later := ih (search.meet first)
    have head : (search.meet first).met.length + search.pending.length =
        (search.meet first).pending.length + search.met.length := by
      unfold meet
      split
      · exact Nat.add_comm ..
      · simp only [List.length_cons]
        omega
    omega

/-- What holds of a search that has made some steps: what it met lies at the end of a path, an edge of a
met name is followed unless that name is pending, and each step has taken up another name. -/
structure Searching (edges : List Edge) (origin : String) (count : Nat) (search : Search) : Prop where
  begun : origin ∈ search.met
  sound : ∀ name ∈ search.met, Path edges origin name
  among : ∀ name ∈ search.pending, name ∈ search.met
  distinct : search.met.Nodup
  followed : ∀ edge ∈ edges, edge.lower ∈ search.met →
    edge.lower ∈ search.pending ∨ edge.upper ∈ search.met
  counted : count + search.pending.length = search.met.length

variable {edges : List Edge} {count : Nat}

theorem searching_start (edges : List Edge) (origin : String) :
    Searching edges origin 0 (start origin) where
  begun := List.mem_singleton_self origin
  sound name member := by
    rw [List.mem_singleton.mp member]
    exact .here origin
  among _ member := member
  distinct := List.nodup_singleton origin
  followed _ _ lower := .inl lower
  counted := Nat.zero_add _

/-- One step keeps the invariant. -/
theorem Searching.step (searching : Searching edges origin count search)
    (step : Step edges search next) : Searching edges origin (count + 1) next := by
  cases step with
  | @follow met pending name uppers once all =>
    have own : name ∈ met := searching.among name List.mem_cons_self
    constructor
    · exact mem_met_meetAll.mpr (.inl searching.begun)
    · intro other member
      rcases mem_met_meetAll.mp member with old | new
      · exact searching.sound other old
      · obtain ⟨edge, declared, lower, upper⟩ := (all other).mp new
        exact .step edge declared (lower ▸ searching.sound name own) upper
    · intro other member
      rw [mem_met_meetAll]
      rcases mem_pending_meetAll.mp member with old | ⟨new, _⟩
      · exact .inl (searching.among other (List.mem_cons_of_mem _ old))
      · exact .inr new
    · exact nodup_meetAll searching.distinct
    · intro edge declared lower
      rw [mem_met_meetAll, mem_pending_meetAll]
      by_cases old : edge.lower ∈ met
      · rcases searching.followed edge declared old with waiting | upper
        · rcases List.mem_cons.mp waiting with taken | later
          · exact .inr (.inr ((all edge.upper).mpr ⟨edge, declared, taken, rfl⟩))
          · exact .inl (.inl later)
        · exact .inr (.inl upper)
      · -- A name that has just been met is pending.
        exact .inl (.inr ⟨(mem_met_meetAll.mp lower).resolve_left old, old⟩)
    · have counted := searching.counted
      have balance := length_meetAll ⟨met, pending⟩ uppers
      simp only [List.length_cons] at counted balance
      omega

/-- Any number of steps keeps the invariant. -/
theorem searching_of_run (run : Run edges count (start origin) search) :
    Searching edges origin count search := by
  generalize begun : start origin = first at run
  induction run with
  | done => exact begun ▸ searching_start edges origin
  | further _ step ih => exact (ih begun).step step

/-- A search without pending names has met every name at the end of a path, and no other. -/
theorem Searching.met_iff (searching : Searching edges origin count search)
    (ended : search.pending = []) : name ∈ search.met ↔ Path edges origin name := by
  constructor
  · exact searching.sound name
  · intro path
    induction path with
    | here => exact searching.begun
    | step edge declared _ arrives ih =>
      subst arrives
      rcases searching.followed edge declared ih with waiting | upper
      · rw [ended] at waiting
        cases waiting
      · exact upper

/-- A search goes on as long as names are pending. -/
theorem exists_step_iff : (∃ next, Step edges search next) ↔ search.pending ≠ [] := by
  constructor
  · rintro ⟨_, ⟨uppers, _, _⟩⟩
    exact List.cons_ne_nil _ _
  · intro waiting
    obtain ⟨met, pending⟩ := search
    obtain ⟨name, rest, rfl⟩ := List.exists_cons_of_ne_nil waiting
    let uppers := ((edges.filter fun edge => edge.lower == name).map Edge.upper).dedup
    exact ⟨_, .follow uppers (List.nodup_dedup _) (by simp [uppers, and_assoc])⟩

end Search

/-- A path from a ranked name ends at a ranked name. -/
theorem Path.ranked {hierarchy : Hierarchy} {lower upper : String}
    (path : Path hierarchy.edges lower upper) (below : lower ∈ hierarchy.names) :
    upper ∈ hierarchy.names := by
  induction path with
  | here => exact below
  | step edge declared _ arrives _ => exact arrives ▸ (hierarchy.ranked edge declared).2

/-- A search takes up no more names than are ranked. -/
theorem Search.count_le {hierarchy : Hierarchy} {origin : String} {count : Nat} {search : Search}
    (ranked : origin ∈ hierarchy.names) (searching : Searching hierarchy.edges origin count search) :
    count ≤ hierarchy.names.length := by
  have within : search.met ⊆ hierarchy.names :=
    fun name member => (searching.sound name member).ranked ranked
  have bounded := searching.distinct.length_le_of_subset within
  have counted := searching.counted
  omega

theorem isSubtype_eq_true_iff {hierarchy : Hierarchy} {lower upper : String} :
    hierarchy.isSubtype lower upper = .ok true ↔
      lower ∈ hierarchy.names ∧ upper ∈ hierarchy.names ∧ Path hierarchy.edges lower upper := by
  constructor
  · intro answered
    obtain ⟨above, below, holds⟩ := isSubtype_eq_ok answered
    exact ⟨below, above, of_decide_eq_true holds.symm⟩
  · rintro ⟨below, above, path⟩
    obtain ⟨first, firstMember, rfl⟩ := List.mem_map.mp below
    obtain ⟨second, secondMember, rfl⟩ := List.mem_map.mp above
    rw [isSubtype_eq firstMember secondMember, decide_eq_true path]

theorem isSubtype_isError_iff {hierarchy : Hierarchy} {lower upper : String} :
    (∃ fault, hierarchy.isSubtype lower upper = .error fault) ↔
      lower ∉ hierarchy.names ∨ upper ∉ hierarchy.names := by
  simp only [isSubtype_eq_error]
  by_cases above : upper ∈ hierarchy.names
  · simp [above]
  · simp [above]

/-- A draft is refused exactly if something is wrong with it. Otherwise every search of the hierarchy, in
whatever order it follows edges, ends within as many steps as names are ranked and has then met the
supertypes of its origin. One qualifier is a subtype of another exactly if both are ranked by name and a
path of declared edges leads up; the test fails exactly if one of them is not ranked. -/
theorem build_decides (draft : Draft) :
    ((∃ fault, build draft = .error fault) ↔ draft.Faulty) ∧
    ∀ hierarchy, build draft = .ok hierarchy →
      (∀ origin ∈ draft.order.map Prod.fst, ∀ count search,
        Search.Run draft.edges count (.start origin) search →
          count ≤ draft.order.length ∧
          ((∃ next, Search.Step draft.edges search next) ↔ search.pending ≠ []) ∧
          (search.pending = [] → ∀ name, name ∈ search.met ↔ name ∈ hierarchy.supertypes origin)) ∧
      ∀ lower upper : Qualifier,
        (hierarchy.isSubtype lower.name upper.name = .ok true ↔
          lower.name ∈ draft.order.map Prod.fst ∧ upper.name ∈ draft.order.map Prod.fst ∧
            Path draft.edges lower.name upper.name) ∧
        ((∃ fault, hierarchy.isSubtype lower.name upper.name = .error fault) ↔
          lower.name ∉ draft.order.map Prod.fst ∨ upper.name ∉ draft.order.map Prod.fst) := by
  refine ⟨build_isError_iff, fun hierarchy built => ?_⟩
  obtain ⟨names, edges⟩ := build_eq_ok built
  rw [← names, ← edges]
  refine ⟨fun origin ranked count search run => ?_, fun lower upper => ?_⟩
  · have searching := Search.searching_of_run run
    have bounded := Search.count_le ranked searching
    rw [names, List.length_map] at bounded
    refine ⟨bounded, Search.exists_step_iff, fun ended name => ?_⟩
    rw [searching.met_iff ended, mem_supertypes]
  · exact ⟨isSubtype_eq_true_iff, isSubtype_isError_iff⟩

/-- Two names that are subtypes of each other, a name that is one of itself, and an edge given twice. -/
def tangled : Draft where
  order := [("HIGH", "schemes.HIGH"), ("MID", ""), ("LOW", "")]
  edges := [⟨"LOW", "MID"⟩, ⟨"MID", "LOW"⟩, ⟨"LOW", "LOW"⟩, ⟨"LOW", "MID"⟩]
  baseline := some "LOW"

theorem build_decides_tangled : ∃ hierarchy, build tangled = .ok hierarchy ∧
    hierarchy.isSubtype "MID" "LOW" = .ok true ∧
    hierarchy.isSubtype "LOW" "HIGH" ≠ .ok true ∧
    (∃ fault, hierarchy.isSubtype "LOW" "NONE" = .error fault) ∧
    ∀ count search, Search.Run tangled.edges count (.start "LOW") search → count ≤ 3 := by
  have accepted : (build tangled).toOption.map names = some ["HIGH", "MID", "LOW"] := by
    decide +kernel
  obtain ⟨hierarchy, built, _⟩ := Outcome.exists_of_toOption_map accepted
  obtain ⟨searches, tests⟩ := (build_decides tangled).2 hierarchy built
  refine ⟨hierarchy, built, ?_, ?_, ?_, ?_⟩
  · refine (tests ⟨"MID", "", by decide⟩ ⟨"LOW", "", by decide⟩).1.mpr ⟨by decide, by decide, ?_⟩
    exact .step ⟨"MID", "LOW"⟩ (by decide) (.here "MID") rfl
  · intro answered
    have path := ((tests ⟨"LOW", "", by decide⟩ ⟨"HIGH", "", by decide⟩).1.mp answered).2.2
    exact absurd path (by decide +kernel)
  · exact (tests ⟨"LOW", "", by decide⟩ ⟨"NONE", "", by decide⟩).2.mpr (.inr (by decide))
  · intro count search run
    exact (searches "LOW" (by decide) count search run).1

end Hierarchy
end SchemeTyping
