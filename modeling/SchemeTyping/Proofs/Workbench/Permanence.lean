import Mathlib
import SchemeTyping.Hierarchy.Schemes
import SchemeTyping.Proofs.Extraction.Repetition
import SchemeTyping.Workbench

/-! Resolution is permanent. Whatever is done on a workbench, be it refused or not, a reference that is
resolved stays resolved to a qualifier of the same name. Only a direct change of its candidates parts them
from that qualifier again. -/
namespace SchemeTyping

/-- A direct change of what typing says about a reference. -/
inductive Change where
  | replaceCandidates (qualifiers : List Qualifier)
  | addCandidate (qualifier : Qualifier)
  | setExplicit (scheme : Option Qualifier)
  | rename (name : String)
  deriving DecidableEq

namespace Change

def apply : Change → Profile → Profile
  | .replaceCandidates qualifiers, profile =>
    { profile with candidates := Candidates.ofList qualifiers }
  | .addCandidate qualifier, profile =>
    { profile with candidates := profile.candidates.insert qualifier }
  | .setExplicit scheme, profile => { profile with explicit := scheme }
  | .rename name, profile => { profile with name }

/-- Whether it is the candidates that change. -/
def ofCandidates : Change → Bool
  | .replaceCandidates _ => true
  | .addCandidate _ => true
  | .setExplicit _ => false
  | .rename _ => false

@[simp] theorem resolved_apply (change : Change) (profile : Profile) :
    (change.apply profile).resolved = profile.resolved := by
  cases change <;> rfl

theorem candidates_apply {change : Change} (other : change.ofCandidates = false) (profile : Profile) :
    (change.apply profile).candidates = profile.candidates := by
  cases change with
  | replaceCandidates _ => cases other
  | addCandidate _ => cases other
  | setExplicit _ => rfl
  | rename _ => rfl

end Change

/-- One operation on a workbench. -/
inductive Action where
  | model (handle identifier name : String) (flavour : Flavour) (candidates : List Qualifier)
      (declaration : Option Reference) (element : Option String) (explicit : Option Qualifier)
  | register (reference : Reference)
  | restock (references : List Reference)
  | resolve (reference : Reference) (qualifier : Qualifier)
  | revise (reference : Reference) (change : Change)
  | assign
  | rank (hierarchy : Hierarchy)
  | adopt (policy : Policy)
  | setStatus (constraint : Constraint) (severity : Severity)
  | tolerate (constraints : List Constraint)
  | newLedger
  | record (identifier : String) (conversion : Conversion) (key : ConversionKey) (sighting : Sighting)
  | openSession (constraints : List Constraint) (share : Bool)
  | verify (constraint : Constraint)
  | convert (constraint : Constraint)
  | check
  | extract (constraints : List Constraint) (share : Bool)

/-- A direct change of the candidates of an entity. -/
def Action.ChangesCandidates (entity : Entity) (action : Action) : Prop :=
  ∃ reference change, action = .revise reference change ∧ reference.entity = entity ∧
    change.ofCandidates = true

namespace Workbench

/-- A reference that was modelled on this workbench. No other one can be changed or resolved there. -/
def Knows (bench : Workbench) (reference : Reference) : Prop :=
  reference.entity ∈ bench.typing.profiles.keys

instance (bench : Workbench) (reference : Reference) : Decidable (bench.Knows reference) :=
  inferInstanceAs (Decidable (_ ∈ _))

/-- The workbench after an attempt. What is refused leaves it as it was. -/
def attempt {Fault : Type} (bench : Workbench) : Except Fault Workbench → Workbench
  | .ok next => next
  | .error _ => bench

/-- The workbench after an operation on its session, if it has one. -/
def inSession {Value : Type} (bench : Workbench)
    (operation : Session → Workbench × Step Value) : Workbench :=
  match bench.session with
  | some session => (operation session).1
  | none => bench

/-- The workbench after an operation, completed or not. -/
def perform (bench : Workbench) : Action → Workbench
  | .model handle identifier name flavour candidates declaration element explicit =>
    bench.attempt ((bench.model handle identifier name flavour candidates declaration element
      explicit).map Prod.fst)
  | .register reference => bench.attempt (bench.register reference)
  | .restock references => bench.attempt (bench.restock references)
  | .resolve reference qualifier =>
    if bench.Knows reference then bench.attempt (bench.resolve reference qualifier) else bench
  | .revise reference change =>
    if bench.Knows reference then bench.revise reference change.apply else bench
  | .assign => bench.assign.1
  | .rank hierarchy => { bench with hierarchy }
  | .adopt policy => bench.adopt policy
  | .setStatus constraint severity => bench.setStatus constraint severity
  | .tolerate constraints => bench.tolerate constraints
  | .newLedger => bench.newLedger
  | .record identifier conversion key sighting =>
    (bench.record identifier conversion key sighting).1
  | .openSession constraints share => bench.openSession constraints share
  | .verify constraint => bench.inSession fun session => bench.verify session constraint
  | .convert constraint => bench.inSession fun session => bench.convert session constraint
  | .check => bench.inSession bench.check
  | .extract constraints share => (bench.extract constraints share).1

/-- The workbench after operations one after the other. -/
def run (bench : Workbench) (actions : List Action) : Workbench := actions.foldl perform bench

end Workbench

namespace Typing
variable {typing next : Typing} {entity other : Entity} {qualifier : Qualifier}

/-- Only a qualifier that agrees with the one it holds resolves an entity again. -/
theorem resolve_eq_ok (resolved : typing.resolve entity qualifier = .ok next) :
    next = typing.put entity { typing.get entity with
        resolved := some qualifier, candidates := Candidates.single qualifier } ∧
      ∀ held ∈ (typing.get entity).resolved, held.Agrees qualifier := by
  unfold resolve at resolved
  dsimp only at resolved
  split at resolved
  · next free =>
    refine ⟨(Except.ok.inj resolved).symm, ?_⟩
    intro held member
    rw [free] at member
    cases member
  · next former holds =>
    split at resolved
    · next agrees =>
      refine ⟨(Except.ok.inj resolved).symm, ?_⟩
      intro held member
      rw [holds] at member
      exact Option.some.inj member ▸ agrees
    · cases resolved

theorem get_of_not_mem (fresh : entity ∉ typing.profiles.keys) : typing.get entity = {} := by
  cases found : typing.profiles.find? entity with
  | none => rw [get, found, Option.getD_none]
  | some profile =>
    refine absurd (Table.contains_iff.mp ?_) fresh
    rw [Table.contains, found]
    rfl

/-- What has candidates was put into the typing. -/
theorem mem_keys_of_candidate (candidate : qualifier ∈ (typing.get entity).candidates.members) :
    entity ∈ typing.profiles.keys := by
  apply Decidable.byContradiction
  intro fresh
  rw [get_of_not_mem fresh] at candidate
  cases candidate

theorem mem_keys_put (typing : Typing) (profile : Profile) :
    other ∈ (typing.put entity profile).profiles.keys ↔
      other ∈ typing.profiles.keys ∨ other = entity := by
  simp only [put, Table.keys_put]
  split
  · next known =>
    constructor
    · exact .inl
    · rintro (old | rfl)
      · exact old
      · exact known
  · rw [List.mem_append, List.mem_singleton]

end Typing

namespace Hierarchy
variable {hierarchy : Hierarchy} {typing next : Typing} {reference : Reference}

/-- Assignment leaves the typing alone, or resolves the reference to one of its candidates. -/
theorem assign_eq_ok (assigned : hierarchy.assign typing reference = .ok next) :
    next = typing ∨ ∃ qualifier ∈ (typing.profile reference).candidates.members,
      typing.resolve reference.entity qualifier = .ok next := by
  unfold assign at assigned
  split at assigned
  · cases assigned
  · left
    exact (Except.ok.inj assigned).symm
  · next qualifier chosen =>
    right
    exact ⟨qualifier, (least_of_maximal chosen).1, Outcome.mapError_eq_ok.mp assigned⟩

/-- What each assignment keeps is kept by all of them, also where they stop at a failure. -/
theorem assignAll_induction (keeps : Typing → Prop)
    (step : ∀ typing next reference, keeps typing → hierarchy.assign typing reference = .ok next →
      keeps next)
    (references : List Reference) (start : keeps typing) :
    keeps (hierarchy.assignAll typing references).1 := by
  induction references generalizing typing with
  | nil => exact start
  | cons reference rest ih =>
    unfold assignAll
    split
    · exact start
    · next first assigned => exact ih (step typing first reference start assigned)

end Hierarchy

/-- A pass leaves the typing that assignment leaves, completed or not. -/
theorem Setting.typing_of_extract (setting : Setting) (constraints : List Constraint)
    (ledger : Ledger) : (setting.extract constraints ledger).typing =
      (setting.hierarchy.assignAll setting.typing setting.store.references).1 := by
  cases assigned : setting.hierarchy.assignAll setting.typing setting.store.references with
  | mk after ending =>
    cases ending with
    | none => exact setting.typing_extract constraints ledger assigned
    | some failure => simp only [extract, assigned]

/-- What becomes of a profile without a direct change of its candidates: they and what they are resolved to
stay as they are, or they are collapsed to a qualifier that agrees with the one that was held. -/
inductive Profile.Carries (before after : Profile) : Prop where
  | kept (resolved : after.resolved = before.resolved)
      (candidates : after.candidates = before.candidates)
  | collapsed (qualifier : Qualifier) (agrees : ∀ held ∈ before.resolved, held.Agrees qualifier)
      (resolved : after.resolved = some qualifier)
      (candidates : after.candidates = Candidates.single qualifier)

/-- A profile whose candidates are nothing but what it is resolved to, if it is resolved. -/
def Profile.Collapsed (profile : Profile) : Prop :=
  ∀ held, profile.resolved = some held → profile.candidates = Candidates.single held

namespace Profile.Carries
variable {first second third : Profile}

theorem refl (profile : Profile) : profile.Carries profile := .kept rfl rfl

theorem trans (earlier : first.Carries second) (later : second.Carries third) :
    first.Carries third := by
  cases later with
  | kept resolved candidates =>
    cases earlier with
    | kept before rest => exact .kept (resolved.trans before) (candidates.trans rest)
    | collapsed qualifier agrees before rest =>
      exact .collapsed qualifier agrees (resolved.trans before) (candidates.trans rest)
  | collapsed qualifier agrees resolved candidates =>
    apply collapsed qualifier _ resolved candidates
    intro held member
    cases earlier with
    | kept before _ => exact agrees held (before ▸ member)
    | collapsed former agreed before _ =>
      exact (agreed held member).trans (agrees former (Option.mem_def.mpr before))

end Profile.Carries

namespace Typing
variable {typing next : Typing} {entity : Entity} {qualifier : Qualifier}

theorem carries_resolve (resolved : typing.resolve entity qualifier = .ok next) (other : Entity) :
    (typing.get other).Carries (next.get other) := by
  obtain ⟨rfl, agrees⟩ := resolve_eq_ok resolved
  by_cases same : other = entity
  · subst same
    rw [get_put_self]
    exact .collapsed qualifier agrees rfl rfl
  · rw [get_put_of_ne _ _ same]
    exact .refl _

/-- Assignment resolves, and a failure among its references leaves what it has come to. -/
theorem carries_assignAll (hierarchy : Hierarchy) (typing : Typing) (references : List Reference)
    (entity : Entity) :
    (typing.get entity).Carries ((hierarchy.assignAll typing references).1.get entity) := by
  apply Hierarchy.assignAll_induction fun reached =>
    (typing.get entity).Carries (reached.get entity)
  · intro reached next reference carries assigned
    rcases Hierarchy.assign_eq_ok assigned with rfl | ⟨qualifier, _, resolved⟩
    · exact carries
    · exact carries.trans (carries_resolve resolved entity)
  · exact .refl _

theorem mem_keys_resolve {other : Entity} (resolved : typing.resolve entity qualifier = .ok next)
    (known : entity ∈ typing.profiles.keys) (later : other ∈ next.profiles.keys) :
    other ∈ typing.profiles.keys := by
  obtain ⟨rfl, _⟩ := resolve_eq_ok resolved
  rcases (mem_keys_put typing _).mp later with old | rfl
  · exact old
  · exact known

/-- Assignment is to nothing but what was put into the typing. -/
theorem mem_keys_assignAll {hierarchy : Hierarchy} {references : List Reference} :
    entity ∈ (hierarchy.assignAll typing references).1.profiles.keys → entity ∈ typing.profiles.keys := by
  apply Hierarchy.assignAll_induction fun reached =>
    entity ∈ reached.profiles.keys → entity ∈ typing.profiles.keys
  · intro reached next reference keeps assigned later
    rcases Hierarchy.assign_eq_ok assigned with rfl | ⟨qualifier, candidate, resolved⟩
    · exact keeps later
    · exact keeps (mem_keys_resolve resolved (mem_keys_of_candidate candidate) later)
  · exact id

end Typing

namespace Workbench
variable {bench : Workbench}

/-- What an operation does to the typing of a workbench and to the number of references modelled there. -/
inductive Effect (bench : Workbench) (action : Action) (next : Workbench) : Prop where
  | none (typing : next.typing = bench.typing) (count : next.modelled = bench.modelled)
  | modelled (identifier : String) (profile : Profile) (unresolved : profile.resolved = .none)
      (typing : next.typing = bench.typing.put ⟨bench.modelled, identifier⟩ profile)
      (count : next.modelled = bench.modelled + 1)
  | resolved (reference : Reference) (qualifier : Qualifier) (known : bench.Knows reference)
      (typing : bench.typing.resolve reference.entity qualifier = .ok next.typing)
      (count : next.modelled = bench.modelled)
  | revised (reference : Reference) (change : Change) (known : bench.Knows reference)
      (own : action = .revise reference change)
      (typing : next.typing =
        bench.typing.put reference.entity (change.apply (bench.typing.get reference.entity)))
      (count : next.modelled = bench.modelled)
  | assigned (typing : next.typing =
        (bench.hierarchy.assignAll bench.typing bench.store.references).1)
      (count : next.modelled = bench.modelled)

theorem effect_attempt {Fault : Type} {action : Action} (outcome : Except Fault Workbench)
    (effect : ∀ next, outcome = .ok next → bench.Effect action next) :
    bench.Effect action (bench.attempt outcome) := by
  cases reached : outcome with
  | error fault => exact .none rfl rfl
  | ok next => exact effect next reached

theorem effect_inSession {Value : Type} {action : Action}
    {operation : Session → Workbench × Step Value}
    (frame : ∀ session, (operation session).1.typing = bench.typing ∧
      (operation session).1.modelled = bench.modelled) :
    bench.Effect action (bench.inSession operation) := by
  unfold inSession
  split
  · next session _ => exact .none (frame session).1 (frame session).2
  · exact .none rfl rfl

/-- A pass on a workbench changes the typing as assignment does, and models nothing. -/
theorem typing_extract (bench : Workbench) (constraints : List Constraint) (share : Bool) :
    (bench.extract constraints share).1.typing =
        (bench.hierarchy.assignAll bench.typing bench.store.references).1 ∧
      (bench.extract constraints share).1.modelled = bench.modelled := by
  have leaves := bench.setting.typing_of_extract constraints
  unfold extract
  cases share with
  | true =>
    dsimp only [if_true]
    split
    · exact ⟨leaves _, rfl⟩
    · exact ⟨leaves _, rfl⟩
  | false =>
    dsimp only [addLedger]
    split
    · exact ⟨leaves _, rfl⟩
    · exact ⟨leaves _, rfl⟩

theorem effect_perform (bench : Workbench) (action : Action) :
    bench.Effect action (bench.perform action) := by
  cases action with
  | model handle identifier name flavour candidates declaration element explicit =>
    apply effect_attempt
    intro next modelled
    obtain ⟨pair, built, rfl⟩ := Outcome.map_eq_ok.mp modelled
    obtain ⟨kind, _, rfl⟩ := Outcome.map_eq_ok.mp built
    exact .modelled identifier (Profile.initial identifier name candidates explicit) rfl rfl rfl
  | register reference =>
    apply effect_attempt
    intro next registered
    obtain ⟨store, _, rfl⟩ := Outcome.map_eq_ok.mp registered
    exact .none rfl rfl
  | restock references =>
    apply effect_attempt
    intro next restocked
    obtain ⟨store, _, rfl⟩ := Outcome.map_eq_ok.mp restocked
    exact .none rfl rfl
  | resolve reference qualifier =>
    by_cases known : bench.Knows reference
    · rw [perform, if_pos known]
      apply effect_attempt
      intro next resolved
      obtain ⟨typing, reached, rfl⟩ := Outcome.map_eq_ok.mp resolved
      exact .resolved reference qualifier known reached rfl
    · rw [perform, if_neg known]
      exact .none rfl rfl
  | revise reference change =>
    by_cases known : bench.Knows reference
    · rw [perform, if_pos known]
      exact .revised reference change known rfl rfl rfl
    · rw [perform, if_neg known]
      exact .none rfl rfl
  | assign => exact .assigned rfl rfl
  | rank hierarchy => exact .none rfl rfl
  | adopt policy => exact .none rfl rfl
  | setStatus constraint severity => exact .none rfl rfl
  | tolerate constraints => exact .none rfl rfl
  | newLedger => exact .none rfl rfl
  | record identifier conversion key sighting => exact .none rfl rfl
  | openSession constraints share =>
    cases share with
    | true => exact .none rfl rfl
    | false => exact .none rfl rfl
  | verify constraint =>
    apply effect_inSession
    intro session
    unfold verify
    dsimp only
    split <;> exact ⟨rfl, rfl⟩
  | convert constraint =>
    apply effect_inSession
    intro session
    unfold convert
    dsimp only
    split <;> exact ⟨rfl, rfl⟩
  | check =>
    apply effect_inSession
    intro session
    unfold check
    split <;> exact ⟨rfl, rfl⟩
  | extract constraints share =>
    obtain ⟨typing, count⟩ := bench.typing_extract constraints share
    exact .assigned typing count

/-- Every profile on the workbench belongs to a reference that was modelled there, so that the next one to
be modelled is new. -/
def Numbered (bench : Workbench) : Prop :=
  ∀ entity ∈ bench.typing.profiles.keys, entity.serial < bench.modelled

theorem Numbered.perform (numbered : bench.Numbered) (action : Action) :
    (bench.perform action).Numbered := by
  intro entity member
  cases effect_perform bench action with
  | none typing count =>
    rw [count]
    rw [typing] at member
    exact numbered entity member
  | modelled identifier profile _ typing count =>
    rw [count]
    rw [typing] at member
    rcases (Typing.mem_keys_put _ _).mp member with old | rfl
    · exact Nat.lt_succ_of_lt (numbered entity old)
    · exact Nat.lt_succ_self _
  | resolved reference qualifier known typing count =>
    rw [count]
    exact numbered entity (Typing.mem_keys_resolve typing known member)
  | revised reference change known _ typing count =>
    rw [count]
    rw [typing] at member
    rcases (Typing.mem_keys_put _ _).mp member with old | rfl
    · exact numbered entity old
    · exact numbered reference.entity known
  | assigned typing count =>
    rw [count]
    rw [typing] at member
    exact numbered entity (Typing.mem_keys_assignAll member)

/-- One operation carries a profile on, or changes its candidates directly and nothing else, or models the
reference, which was not resolved before. -/
theorem carries_perform (numbered : bench.Numbered) (action : Action) (entity : Entity) :
    (bench.typing.get entity).Carries ((bench.perform action).typing.get entity) ∨
      ((bench.perform action).typing.get entity).resolved = (bench.typing.get entity).resolved ∧
        (action.ChangesCandidates entity ∨ (bench.typing.get entity).resolved = none) := by
  cases effect_perform bench action with
  | none typing _ =>
    left
    rw [typing]
    exact .refl _
  | modelled identifier profile unresolved typing _ =>
    rw [typing]
    by_cases same : entity = ⟨bench.modelled, identifier⟩
    · -- The number is new, so the entity had no profile yet and cannot have been resolved.
      right
      have fresh : entity ∉ bench.typing.profiles.keys := by
        intro known
        have below := numbered entity known
        rw [same] at below
        exact Nat.lt_irrefl _ below
      have blank := Typing.get_of_not_mem fresh
      rw [same, Typing.get_put_self, ← same, blank]
      exact ⟨unresolved, .inr rfl⟩
    · left
      rw [Typing.get_put_of_ne _ _ same]
      exact .refl _
  | resolved reference qualifier _ typing _ =>
    left
    exact Typing.carries_resolve typing entity
  | revised reference change _ own typing _ =>
    rw [typing]
    by_cases same : entity = reference.entity
    · subst same
      rw [Typing.get_put_self, Change.resolved_apply]
      cases changes : change.ofCandidates with
      | true =>
        right
        exact ⟨rfl, .inl ⟨reference, change, own, rfl, changes⟩⟩
      | false =>
        left
        exact .kept (Change.resolved_apply _ _) (Change.candidates_apply changes _)
    · left
      rw [Typing.get_put_of_ne _ _ same]
      exact .refl _
  | assigned typing _ =>
    left
    rw [typing]
    exact Typing.carries_assignAll _ _ _ _

/-- What a reference is resolved to, an operation leaves under its name. -/
theorem held_perform (numbered : bench.Numbered) (action : Action) {entity : Entity} {held : Qualifier}
    (resolved : (bench.typing.get entity).resolved = some held) :
    ∃ now, ((bench.perform action).typing.get entity).resolved = some now ∧ held.Agrees now := by
  rcases carries_perform numbered action entity with carries | ⟨same, _⟩
  · cases carries with
    | kept same _ => exact ⟨held, same.trans resolved, rfl⟩
    | collapsed qualifier agrees settled _ => exact ⟨qualifier, settled, agrees held resolved⟩
  · exact ⟨held, same.trans resolved, rfl⟩

/-- An operation leaves a collapsed profile collapsed unless it changes the candidates of what is resolved. -/
theorem collapsed_perform (numbered : bench.Numbered) {action : Action} {entity : Entity}
    (collapsed : (bench.typing.get entity).Collapsed)
    (timely : action.ChangesCandidates entity → (bench.typing.get entity).resolved = none) :
    ((bench.perform action).typing.get entity).Collapsed := by
  intro held resolved
  rcases carries_perform numbered action entity with carries | ⟨same, reason⟩
  · cases carries with
    | kept same candidates => exact candidates.trans (collapsed held (same ▸ resolved))
    | collapsed qualifier _ settled candidates =>
      obtain rfl := Option.some.inj (settled.symm.trans resolved)
      exact candidates
  · -- The candidates were changed while nothing was resolved, and that still holds.
    have unresolved : (bench.typing.get entity).resolved = none := reason.elim timely id
    rw [same, unresolved] at resolved
    cases resolved

/-- Whatever is done after a reference is resolved, it is resolved to a qualifier that agrees. -/
theorem held_run (numbered : bench.Numbered) (actions : List Action) {entity : Entity} {held : Qualifier}
    (resolved : (bench.typing.get entity).resolved = some held) :
    ∃ now, ((bench.run actions).typing.get entity).resolved = some now ∧ held.Agrees now := by
  induction actions generalizing bench held with
  | nil => exact ⟨held, resolved, rfl⟩
  | cons action rest ih =>
    obtain ⟨next, settled, agrees⟩ := held_perform numbered action resolved
    obtain ⟨now, reached, later⟩ := ih (numbered.perform action) settled
    exact ⟨now, reached, agrees.trans later⟩

theorem collapsed_run (numbered : bench.Numbered) {entity : Entity}
    (collapsed : (bench.typing.get entity).Collapsed) (actions : List Action)
    (timely : ∀ before action after, actions = before ++ action :: after →
      action.ChangesCandidates entity → ((bench.run before).typing.get entity).resolved = none) :
    ((bench.run actions).typing.get entity).Collapsed := by
  induction actions generalizing bench with
  | nil => exact collapsed
  | cons action rest ih =>
    apply ih (numbered.perform action)
    · exact collapsed_perform numbered collapsed (timely [] action rest rfl)
    · intro before later after split
      exact timely (action :: before) later after (congrArg (action :: ·) split)

/-- A workbench with nothing on it yet. -/
def bare (hierarchy : Hierarchy) : Workbench := { hierarchy }

theorem numbered_bare (hierarchy : Hierarchy) : (bare hierarchy).Numbered := by
  intro entity member
  cases member

theorem run_append (bench : Workbench) (before after : List Action) :
    bench.run (before ++ after) = (bench.run before).run after :=
  List.foldl_append

theorem numbered_run (numbered : bench.Numbered) (actions : List Action) :
    (bench.run actions).Numbered := by
  induction actions generalizing bench with
  | nil => exact numbered
  | cons action rest ih => exact ih (numbered.perform action)

/-- Resolution is permanent. Over every history of a workbench, refused operations included, what an entity
is resolved to at any time keeps its name until the end, and is never cleared. If no operation changed the
candidates of the entity directly once it was resolved, then they are exactly what it is resolved to. -/
theorem resolution_permanent (hierarchy : Hierarchy) (history : List Action) (entity : Entity) :
    let reached := ((bare hierarchy).run history).typing.get entity
    (∀ before after, history = before ++ after → ∀ held,
      (((bare hierarchy).run before).typing.get entity).resolved = some held →
      ∃ now, reached.resolved = some now ∧ now.name = held.name) ∧
    ((∀ before action after, history = before ++ action :: after → action.ChangesCandidates entity →
        (((bare hierarchy).run before).typing.get entity).resolved = none) →
      ∀ held, reached.resolved = some held → reached.candidates = Candidates.single held) := by
  intro reached
  have numbered := numbered_bare hierarchy
  constructor
  · rintro before after rfl held resolved
    obtain ⟨now, later, agrees⟩ := held_run (numbered_run numbered before) after resolved
    refine ⟨now, ?_, agrees.symm⟩
    rw [← later, ← run_append]
  · intro timely
    apply collapsed_run numbered _ history timely
    intro held resolved
    cases resolved

/-- A variable that is modelled, put into the store and resolved to the deterministic scheme. -/
def settling : List Action := [
  .model "x" "x" "" .variable (["DET"].filterMap Hierarchy.schemes.find?) none none none,
  .register ⟨⟨0, "x"⟩, .variable, some "x"⟩, .assign]

/-- Its candidates are widened, so that assignment and a pass would now choose another scheme. -/
def widening : List Action := [
  .revise ⟨⟨0, "x"⟩, .variable, some "x"⟩
    (.replaceCandidates (["DET", "RND"].filterMap Hierarchy.schemes.find?)), .assign,
  .revise ⟨⟨0, "x"⟩, .variable, some "x"⟩ (.rename "y"), .extract [] true]

/-- Assignment and the pass are refused, and the variable is as deterministic as before. -/
theorem resolution_permanent_widened :
    ((bare .schemes).run (settling ++ widening)).assign.2.isSome = true ∧
      (∃ now, (((bare .schemes).run (settling ++ widening)).typing.get ⟨0, "x"⟩).resolved = some now ∧
        now.name = "DET") ∧
      ∃ held, (((bare .schemes).run settling).typing.get ⟨0, "x"⟩).resolved = some held ∧
        held.name = "DET" ∧
        (((bare .schemes).run settling).typing.get ⟨0, "x"⟩).candidates = Candidates.single held := by
  have settled : (((bare .schemes).run settling).typing.get ⟨0, "x"⟩).resolved.map Qualifier.name =
      some "DET" := by
    decide +kernel
  obtain ⟨held, resolved, name⟩ := Option.map_eq_some_iff.mp settled
  refine ⟨by cbv, ?_, held, resolved, name, ?_⟩
  · obtain ⟨kept, _⟩ := resolution_permanent .schemes (settling ++ widening) ⟨0, "x"⟩
    obtain ⟨now, reached, same⟩ := kept settling widening rfl held resolved
    exact ⟨now, reached, same.trans name⟩
  · obtain ⟨_, collapsed⟩ := resolution_permanent .schemes settling ⟨0, "x"⟩
    refine collapsed ?_ held resolved
    intro before action after split changes
    have member : action ∈ settling := split ▸ List.mem_append_right _ List.mem_cons_self
    obtain ⟨reference, change, rfl, _, _⟩ := changes
    simp [settling] at member

end Workbench
end SchemeTyping
