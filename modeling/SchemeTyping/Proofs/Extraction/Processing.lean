import Mathlib
import SchemeTyping.Hierarchy.Schemes
import SchemeTyping.Proofs.Extraction.Repetition
import SchemeTyping.Proofs.Hierarchy.Leading
import SchemeTyping.Proofs.Reference.Store
import SchemeTyping.Workbench

/-! Assignment reference by reference. It stops at the first reference of the store that refuses it, with
everything before processed and everything from there on as it was. -/
namespace SchemeTyping
/-- No reference of a store stands in it twice. -/
theorem Store.fresh_of_split {store : Store} {front later : List Reference} {reference : Reference}
    (split : store.references = front ++ reference :: later) :
    reference.entity ∉ front.map Reference.entity := by
  have distinct := store.nodup_entities
  rw [split, List.map_append, List.map_cons] at distinct
  exact fun inside => (List.nodup_append.mp distinct).2.2 _ inside _ List.mem_cons_self rfl

namespace Hierarchy
variable {hierarchy : Hierarchy} {profile : Profile} {typing after : Typing} {reference : Reference}
  {references : List Reference} {failure : Failure}

/-- Why a reference cannot be processed: one of several candidates is not ranked, or the reference is
resolved to another qualifier than the one that leads its candidates. -/
inductive Refuses (hierarchy : Hierarchy) (identifier : String) (profile : Profile) : Failure → Prop where
  | unranked (qualifier : Qualifier) (several : 2 ≤ profile.candidates.members.length)
      (member : qualifier ∈ profile.candidates.members) (outside : qualifier.name ∉ hierarchy.names) :
      Refuses hierarchy identifier profile (.unranked ⟨qualifier⟩)
  | conflict (held choice : Qualifier) (resolved : profile.resolved = some held)
      (leads : hierarchy.Leads profile.candidates.members choice) (apart : ¬ held.Agrees choice) :
      Refuses hierarchy identifier profile (.conflict ⟨identifier, held, choice⟩)

/-- What processing makes of a profile. It is resolved to the candidate that leads the others, which is
chosen in whatever order they are listed; without candidates it stays as it is. -/
inductive Processed (hierarchy : Hierarchy) (before : Profile) : Profile → Prop where
  | bare (empty : before.candidates.members = []) : Processed hierarchy before before
  | collapsed (choice : Qualifier) (leads : hierarchy.Leads before.candidates.members choice)
      (chosen : ∀ listed, listed.Perm before.candidates.members →
        hierarchy.maximal listed = .ok (some choice)) :
      Processed hierarchy before
        { before with resolved := some choice, candidates := Candidates.single choice }

/-- A profile is admitted exactly if nothing refuses it. -/
theorem admits_iff {identifier : String} : hierarchy.Admits profile ↔
    ∀ failure, ¬ hierarchy.Refuses identifier profile failure := by
  have distinct := profile.candidates.distinct
  constructor
  · intro admits failure refuses
    cases refuses with
    | unranked qualifier several member outside =>
      obtain ⟨choice, chosen⟩ := admits.offered
      cases choice with
      | none =>
        rw [eq_nil_of_maximal chosen] at member
        cases member
      | some choice =>
        have leads := leads_of_maximal distinct chosen
        exact outside (leads.ranked (.of_map _ distinct) (by omega) qualifier member)
    | conflict held choice resolved leads apart =>
      exact apart (admits.free held resolved choice ((maximal_eq_some_iff distinct).mpr leads))
  · intro sound
    constructor
    · cases chosen : hierarchy.maximal profile.candidates.members with
      | ok choice => exact ⟨choice, rfl⟩
      | error fault =>
        obtain ⟨several, member, outside⟩ := maximal_eq_error chosen
        exact absurd (.unranked fault.qualifier several member outside) (sound _)
    · intro held resolved choice chosen
      apply Decidable.byContradiction
      intro apart
      exact sound _ (.conflict held choice resolved (leads_of_maximal distinct chosen) apart)

/-- Assigning fails only for what refuses the reference. -/
theorem refuses_of_assign (failed : hierarchy.assign typing reference = .error failure) :
    hierarchy.Refuses reference.identifier (typing.profile reference) failure := by
  unfold assign at failed
  split at failed
  · next fault unchosen =>
    obtain rfl := Except.error.inj failed
    obtain ⟨several, member, outside⟩ := maximal_eq_error unchosen
    exact .unranked fault.qualifier several member outside
  · cases failed
  · next choice chosen =>
    obtain ⟨clash, unresolved, rfl⟩ := Outcome.mapError_eq_error.mp failed
    have leads := leads_of_maximal (typing.profile reference).candidates.distinct chosen
    unfold Typing.resolve at unresolved
    dsimp only at unresolved
    split at unresolved
    · cases unresolved
    · next held resolved =>
      split at unresolved
      · cases unresolved
      · next apart =>
        obtain rfl := Except.error.inj unresolved
        exact .conflict held choice resolved leads apart

theorem processed_settled (admits : hierarchy.Admits profile) :
    hierarchy.Processed profile (hierarchy.settled profile) := by
  obtain ⟨choice, chosen⟩ := admits.offered
  cases choice with
  | none =>
    have same : hierarchy.settled profile = profile := by simp [settled, chosen]
    rw [same]
    exact .bare (eq_nil_of_maximal chosen)
  | some choice =>
    have made : hierarchy.settled profile =
        { profile with resolved := some choice, candidates := Candidates.single choice } := by
      simp [settled, chosen]
    have distinct := profile.candidates.distinct
    have leads := leads_of_maximal distinct chosen
    rw [made]
    exact .collapsed choice leads fun _ same => leads.maximal_of_perm distinct same

/-- An assignment that stops has completed over the references before the one at which it stops. -/
theorem assignAll_eq_some (stopped : hierarchy.assignAll typing references = (after, some failure)) :
    ∃ processed reference later, references = processed ++ reference :: later ∧
      hierarchy.assignAll typing processed = (after, none) ∧
      hierarchy.assign after reference = .error failure := by
  induction references generalizing typing with
  | nil => cases (Prod.mk.inj stopped).2
  | cons first rest ih =>
    unfold assignAll at stopped
    split at stopped
    · next refused =>
      obtain ⟨rfl, same⟩ := Prod.mk.inj stopped
      obtain rfl := Option.some.inj same
      exact ⟨[], first, rest, rfl, rfl, refused⟩
    · next next taken =>
      obtain ⟨processed, reference, later, rfl, done, refused⟩ := ih stopped
      refine ⟨first :: processed, reference, later, rfl, ?_, refused⟩
      simp only [assignAll, taken, done]

/-- What an assignment that completes has done to each entity. -/
theorem processed_of_assignAll (distinct : (references.map Reference.entity).Nodup)
    (assigned : hierarchy.assignAll typing references = (after, none)) :
    (∀ reference ∈ references,
      hierarchy.Processed (typing.profile reference) (after.profile reference)) ∧
    ∀ entity ∉ references.map Reference.entity, after.get entity = typing.get entity := by
  have gets := get_of_assignAll distinct assigned
  constructor
  · intro reference member
    have admits := admits_of_assignAll distinct assigned reference member
    rw [Typing.profile, Typing.profile, gets, if_pos (List.mem_map_of_mem member)]
    exact processed_settled admits
  · intro entity outside
    rw [gets, if_neg outside]

/-- What assigning over a store does: it processes the references before the first that refuses, and no
other profile changes. -/
theorem assignAll_processes {store : Store} {ending : Option Failure}
    (assigned : hierarchy.assignAll typing store.references = (after, ending)) :
    ∃ processed rest, store.references = processed ++ rest ∧
      (∀ reference ∈ processed, hierarchy.Admits (typing.profile reference) ∧
        hierarchy.Processed (typing.profile reference) (after.profile reference)) ∧
      (∀ entity ∉ processed.map Reference.entity, after.get entity = typing.get entity) ∧
      (ending = none → rest = []) ∧
      ∀ failure, ending = some failure → ∃ reference later, rest = reference :: later ∧
        hierarchy.Refuses reference.identifier (typing.profile reference) failure := by
  have distinct := store.nodup_entities
  cases ending with
  | none =>
    obtain ⟨processed, kept⟩ := processed_of_assignAll distinct assigned
    refine ⟨store.references, [], (List.append_nil _).symm, fun reference member => ?_, kept,
      fun _ => rfl, fun failure same => by cases same⟩
    exact ⟨admits_of_assignAll distinct assigned reference member, processed reference member⟩
  | some failure =>
    obtain ⟨front, reference, later, split, done, refused⟩ := assignAll_eq_some assigned
    rw [split, List.map_append] at distinct
    have distinctFront := (List.nodup_append.mp distinct).1
    obtain ⟨processed, kept⟩ := processed_of_assignAll distinctFront done
    refine ⟨front, reference :: later, split, fun other member => ?_, kept, (fun same => by cases same),
      fun other same => ?_⟩
    · exact ⟨admits_of_assignAll distinctFront done other member, processed other member⟩
    · obtain rfl := Option.some.inj same
      have untouched : after.profile reference = typing.profile reference :=
        kept _ (Store.fresh_of_split split)
      exact ⟨reference, later, rfl, untouched ▸ refuses_of_assign refused⟩

end Hierarchy

namespace Workbench

/-- Assignment changes nothing on a workbench but the typing. It completes exactly if no reference of the
store refuses it, and a further one then changes nothing; else it stops at the first reference that does.
The references before are processed, and no other profile changes. -/
theorem assign_processes (bench : Workbench) : ∃ typing ending processed rest,
    bench.assign = ({ bench with typing }, ending) ∧
    bench.store.references = processed ++ rest ∧
    (ending = none ↔ ∀ reference ∈ bench.store.references, ∀ failure,
      ¬ bench.hierarchy.Refuses reference.identifier (bench.typing.profile reference) failure) ∧
    (∀ reference ∈ processed,
      (∀ failure, ¬ bench.hierarchy.Refuses reference.identifier (bench.typing.profile reference)
        failure) ∧
      bench.hierarchy.Processed (bench.typing.profile reference) (typing.profile reference)) ∧
    (∀ entity ∉ processed.map Reference.entity, typing.get entity = bench.typing.get entity) ∧
    (ending = none → rest = [] ∧
      ({ bench with typing } : Workbench).assign = ({ bench with typing }, none)) ∧
    ∀ failure, ending = some failure → ∃ reference later, rest = reference :: later ∧
      bench.hierarchy.Refuses reference.identifier (bench.typing.profile reference) failure := by
  cases assigned : bench.hierarchy.assignAll bench.typing bench.store.references with
  | mk typing ending =>
    obtain ⟨processed, rest, split, done, kept, completes, stops⟩ :=
      Hierarchy.assignAll_processes assigned
    have assign : bench.assign = ({ bench with typing }, ending) := by simp only [assign, assigned]
    have sound : ∀ reference ∈ processed, ∀ failure,
        ¬ bench.hierarchy.Refuses reference.identifier (bench.typing.profile reference) failure :=
      fun reference member => Hierarchy.admits_iff.mp (done reference member).1
    refine ⟨typing, ending, processed, rest, assign, split, ⟨?_, ?_⟩,
      fun reference member => ⟨sound reference member, (done reference member).2⟩, kept,
      fun ended => ⟨completes ended, ?_⟩, stops⟩
    · intro ended reference member
      rw [split, completes ended, List.append_nil] at member
      exact sound reference member
    · intro all
      cases ending with
      | none => rfl
      | some failure =>
        obtain ⟨reference, later, same, refuses⟩ := stops failure rfl
        have member : reference ∈ bench.store.references := by simp [split, same]
        exact absurd refuses (all reference member failure)
    · subst ended
      have again := Hierarchy.assignAll_again bench.store.nodup_entities assigned
      simp only [Workbench.assign, again]

/-- Three variables. The second one may also take a qualifier that is not ranked. -/
def halting : Workbench where
  hierarchy := .schemes
  typing := Typing.empty
    |>.put ⟨0, "a"⟩ (.initial "a" "" (["DET", "AH"].filterMap Hierarchy.schemes.find?) none)
    |>.put ⟨1, "b"⟩ (.initial "b" "" (["RND", "NONE"].filterMap (Qualifier.make? · "")) none)
    |>.put ⟨2, "c"⟩ (.initial "c" "" (["CLEAR"].filterMap Hierarchy.schemes.find?) none)
  store := {
    references := [⟨⟨0, "a"⟩, .variable, none⟩, ⟨⟨1, "b"⟩, .variable, none⟩, ⟨⟨2, "c"⟩, .variable, none⟩]
    distinct := by decide
    owned := by decide }

theorem assign_processes_halted : ∃ typing failure processed reference later,
    halting.assign = ({ halting with typing }, some failure) ∧
    halting.store.references = processed ++ reference :: later ∧
    halting.hierarchy.Refuses reference.identifier (halting.typing.profile reference) failure ∧
    (∀ earlier ∈ processed,
      halting.hierarchy.Processed (halting.typing.profile earlier) (typing.profile earlier)) ∧
    typing.profile reference = halting.typing.profile reference ∧
    ((typing.get ⟨0, "a"⟩).resolved.map Qualifier.name, (typing.get ⟨2, "c"⟩).resolved) =
      (some "AH", none) := by
  obtain ⟨typing, ending, processed, rest, assigned, split, _, done, kept, _, stops⟩ :=
    assign_processes halting
  have halted : halting.assign.2.isSome = true := by cbv
  have resolved : ((halting.assign.1.typing.get ⟨0, "a"⟩).resolved.map Qualifier.name,
      (halting.assign.1.typing.get ⟨2, "c"⟩).resolved) = (some "AH", none) := by
    cbv
  rw [assigned] at halted resolved
  obtain ⟨failure, rfl⟩ := Option.isSome_iff_exists.mp halted
  obtain ⟨reference, later, rfl, refuses⟩ := stops failure rfl
  exact ⟨typing, failure, processed, reference, later, assigned, split, refuses,
    fun earlier member => (done earlier member).2, kept _ (Store.fresh_of_split split), resolved⟩

end Workbench
end SchemeTyping
