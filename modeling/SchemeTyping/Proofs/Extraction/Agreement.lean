import Mathlib
import SchemeTyping.Hierarchy.Schemes
import SchemeTyping.Proofs.Extraction.Assignment
import SchemeTyping.Proofs.Extraction.Collection
import SchemeTyping.Proofs.Extraction.Conversions
import SchemeTyping.Proofs.Hierarchy.Reachability
import SchemeTyping.Proofs.Reference.Store

/-! Verification and conversion agree: what is violated between two ends without an explicit scheme is
converted, unless a parameter takes a baseline value as it is. That happens only below a baseline that is
no subtype of everything. -/
namespace SchemeTyping

/-- A baseline value goes to a parameter, or to an element that a parameter owns, and not through an
adapted method. -/
structure TakenAsIs (store : Store) (baseline lower : Qualifier) (right : Reference) : Prop where
  start : FromBaseline baseline lower right
  taker : right.kind = .parameter ∨
    ∃ declaration, store.declarationOf? right = some declaration ∧ declaration.kind = .parameter

namespace Hierarchy
variable {hierarchy : Hierarchy}

/-- The baseline is a subtype of every qualifier. -/
def Grounded (hierarchy : Hierarchy) : Prop := ∀ qualifier ∈ hierarchy.order,
  hierarchy.isSubtype hierarchy.baseline.name qualifier.name = .ok true

instance (hierarchy : Hierarchy) : Decidable hierarchy.Grounded :=
  inferInstanceAs (Decidable (∀ qualifier ∈ hierarchy.order, _))

theorem grounded_schemes : schemes.Grounded := by
  decide +kernel

theorem ne_of_not_isSubtype {lower upper : String}
    (apart : hierarchy.isSubtype lower upper = .ok false) : lower ≠ upper := by
  rintro rfl
  have contrary := (isSubtype_eq_ok apart).2.2
  rw [decide_eq_true (Path.here lower)] at contrary
  cases contrary

/-- Below a baseline that is a subtype of everything nothing is violated. -/
theorem Grounded.ne_baseline (grounded : hierarchy.Grounded) {lower upper : String}
    (apart : hierarchy.isSubtype lower upper = .ok false) : lower ≠ hierarchy.baseline.name := by
  rintro rfl
  obtain ⟨qualifier, ranked, rfl⟩ := List.mem_map.mp (isSubtype_eq_ok apart).1
  rw [grounded qualifier ranked] at apart
  cases apart

theorem explicit_settled (profile : Profile) :
    (hierarchy.settled profile).explicit = profile.explicit := by
  unfold settled
  split <;> rfl

/-- Assignment leaves explicit schemes alone. -/
theorem explicit_of_assignAll {references : List Reference}
    (distinct : (references.map Reference.entity).Nodup) {typing after : Typing}
    (assigned : hierarchy.assignAll typing references = (after, none)) (reference : Reference) :
    (after.profile reference).explicit = (typing.profile reference).explicit := by
  rw [Typing.profile, get_of_assignAll distinct assigned]
  split
  · exact explicit_settled _
  · rfl

end Hierarchy

namespace Setting
variable {setting : Setting} {constraint : Constraint} {left right : Reference} {lower upper : Qualifier}

/-- Only between resolved ends that are no subtypes is a constraint violated. -/
theorem verdictOn_violated (violated : setting.verdictOn constraint left right = .ok .violated) :
    ∃ lower upper, (setting.profile left).resolved = some lower ∧
      (setting.profile right).resolved = some upper ∧
      setting.hierarchy.isSubtype lower.name upper.name = .ok false := by
  unfold verdictOn at violated
  split at violated
  · next lower upper heldLeft heldRight =>
    refine ⟨lower, upper, heldLeft, heldRight, ?_⟩
    unfold judge at violated
    split at violated
    · cases violated
    · cases violated
    · next apart => exact apart
  · cases violated

/-- Two resolved ends without an explicit scheme whose qualifiers differ. -/
theorem diverges_of_resolved (found : setting.ends constraint = .ok (left, right))
    (placed : 0 < constraint.position) (leftMark : left.kind ≠ .equalNull)
    (rightMark : right.kind ≠ .equalNull) (leftPlain : (setting.profile left).explicit = none)
    (rightPlain : (setting.profile right).explicit = none)
    (leftHeld : (setting.profile left).resolved = some lower)
    (rightHeld : (setting.profile right).resolved = some upper) (differ : lower.name ≠ upper.name) :
    Diverges setting.store setting.typing constraint left right lower upper := by
  obtain ⟨leftFound, rightFound⟩ := ends_eq_ok.mp found
  have effective : ∀ profile : Profile, profile.explicit = none →
      profile.effective = profile.resolved := by
    intro profile plain
    rw [Profile.effective, plain, Option.none_or]
  exact {
    leftFound, rightFound, placed, leftMark, rightMark, differ
    resolved := fun unresolved => Option.some_ne_none upper (rightHeld.symm.trans unresolved)
    sourceHeld := (effective _ leftPlain).trans leftHeld
    targetHeld := (effective _ rightPlain).trans rightHeld }

section Divergence
variable (diverges : Diverges setting.store setting.typing constraint left right lower upper)
include diverges

theorem not_requires_of_taken
    (taken : TakenAsIs setting.store setting.hierarchy.baseline lower right) (identifier : String)
    (conversion : Conversion) : ¬ Requires setting.store setting.typing setting.hierarchy.baseline
      constraint identifier conversion := by
  intro required
  cases required with
  | fromBaseline others _ taker owner =>
    obtain rfl := Option.some.inj (diverges.rightFound.symm.trans others.rightFound)
    rcases taken.taker with kind | ⟨declaration, owns, kind⟩
    · exact taker kind
    · exact owner declaration owns kind
  | between others start _ =>
    obtain rfl := Option.some.inj (diverges.leftFound.symm.trans others.leftFound)
    obtain rfl := Option.some.inj (diverges.rightFound.symm.trans others.rightFound)
    obtain rfl := Option.some.inj (diverges.sourceHeld.symm.trans others.sourceHeld)
    exact start taken.start

/-- Either end may be the one that the conversion belongs to. -/
theorem requires_of_not_taken (leftResolved : (setting.profile left).resolved ≠ none)
    (converted : ¬ TakenAsIs setting.store setting.hierarchy.baseline lower right) :
    ∃ identifier ∈ [left.identifier, right.identifier],
      Requires setting.store setting.typing setting.hierarchy.baseline constraint identifier
        ⟨constraint.position, lower.name, upper.name, constraint.spelling⟩ := by
  by_cases start : FromBaseline setting.hierarchy.baseline lower right
  · exact ⟨left.identifier, List.mem_cons_self,
      .fromBaseline diverges start (fun kind => converted ⟨start, .inl kind⟩)
        fun declaration owns kind => converted ⟨start, .inr ⟨declaration, owns, kind⟩⟩⟩
  · refine ⟨_, ?_, .between diverges start leftResolved⟩
    split
    · exact List.mem_cons_of_mem _ List.mem_cons_self
    · exact List.mem_cons_self

end Divergence

/-- Whatever is violated in a completed pass is found between two ends that are resolved apart. -/
theorem violated_of_extract {constraints : List Constraint} {findings : List Finding}
    (surveyed : setting.survey constraints = (findings, none)) {ledger : Ledger}
    (violated : constraint ∈ (setting.extractionOf constraints ledger findings).violations) :
    ∃ finding ∈ findings, ∃ left right lower upper, finding.constraint = constraint ∧
      setting.ends constraint = .ok (left, right) ∧
      (setting.profile left).resolved = some lower ∧ (setting.profile right).resolved = some upper ∧
      setting.hierarchy.isSubtype lower.name upper.name = .ok false ∧
      finding.requirement = setting.requirementOn constraint left right := by
  obtain ⟨finding, kept, rfl⟩ := List.mem_map.mp violated
  obtain ⟨member, offends⟩ := List.mem_filter.mp kept
  obtain ⟨left, right, found, judged, _, _, required⟩ :=
    examine_eq_ok.mp ((survey_completes.mp surveyed).2 finding member)
  have verdict : finding.verdict = .violated := by
    cases held : finding.verdict with
    | violated => rfl
    | _ =>
      rw [held] at offends
      cases offends
  rw [verdict] at judged
  obtain ⟨lower, upper, leftHeld, rightHeld, apart⟩ := verdictOn_violated judged
  exact ⟨finding, member, left, right, lower, upper, rfl, found, leftHeld, rightHeld, apart, required⟩

/-- Verifier and converter agree. Whatever a pass finds violated stands between two references resolved to
different qualifiers. If the constraint has a position, neither end is a null mark and neither has an
explicit scheme, then the pass adds the conversion between those qualifiers to one of the two identifiers,
except where a parameter takes a baseline value as it is, and then it requires none. The exception does not
arise if the baseline is a subtype of every qualifier, as in the default hierarchy. -/
theorem conversion_of_violation {constraints : List Constraint} {ledger : Ledger}
    {extraction : Extraction} (completed : (setting.extract constraints ledger).result = .ok extraction)
    (violated : constraint ∈ extraction.violations) :
    let typing := (setting.extract constraints ledger).typing
    (∃ left right lower upper, setting.store.find? constraint.left = some left ∧
      setting.store.find? constraint.right = some right ∧
      (typing.profile left).resolved = some lower ∧ (typing.profile right).resolved = some upper ∧
      lower.name ≠ upper.name ∧
      (0 < constraint.position → left.kind ≠ .equalNull → right.kind ≠ .equalNull →
        (setting.profile left).explicit = none → (setting.profile right).explicit = none →
        (¬ TakenAsIs setting.store setting.hierarchy.baseline lower right →
          ∃ identifier ∈ [constraint.left, constraint.right], ∃ added,
            extraction.ledger.conversionsFor identifier =
              ledger.conversionsFor identifier ++ added ∧
            ⟨constraint.position, lower.name, upper.name, constraint.spelling⟩ ∈ added) ∧
        (TakenAsIs setting.store setting.hierarchy.baseline lower right →
          ∀ identifier conversion, ¬ Requires setting.store typing setting.hierarchy.baseline
            constraint identifier conversion)) ∧
      (setting.hierarchy.Grounded →
        ¬ TakenAsIs setting.store setting.hierarchy.baseline lower right)) ∧
    Hierarchy.schemes.Grounded := by
  intro typing
  obtain ⟨after, findings, assigned, surveyed, rfl⟩ := extract_eq_ok completed
  obtain ⟨settled, _, _, _⟩ := extract_of_surveyed setting ledger assigned surveyed
  obtain rfl : typing = after := settled
  obtain ⟨finding, member, left, right, lower, upper, rfl, found, leftHeld, rightHeld, apart, required⟩ :=
    violated_of_extract surveyed violated
  obtain ⟨leftFound, rightFound⟩ := ends_eq_ok.mp found
  have differ := Hierarchy.ne_of_not_isSubtype apart
  refine ⟨⟨left, right, lower, upper, leftFound, rightFound, leftHeld, rightHeld, differ, ?_, ?_⟩,
    Hierarchy.grounded_schemes⟩
  · intro placed leftMark rightMark leftPlain rightPlain
    -- Without explicit schemes, before or after assignment, the resolved qualifiers are the effective ones.
    have kept := Hierarchy.explicit_of_assignAll setting.store.nodup_entities assigned
    have diverges := diverges_of_resolved found placed leftMark rightMark ((kept left).trans leftPlain)
      ((kept right).trans rightPlain) leftHeld rightHeld differ
    refine ⟨fun converted => ?_, not_requires_of_taken diverges⟩
    have leftResolved : ({ setting with typing }.profile left).resolved ≠ none := fun unresolved =>
      Option.some_ne_none lower (leftHeld.symm.trans unresolved)
    obtain ⟨identifier, own, asked⟩ := requires_of_not_taken diverges leftResolved converted
    rw [(Store.find?_eq_some leftFound).2, (Store.find?_eq_some rightFound).2] at own
    refine ⟨identifier, own, findings.flatMap (Finding.addition identifier),
      Finding.conversionsFor_foldl_enter ledger findings identifier, ?_⟩
    refine List.mem_flatMap.mpr ⟨finding, member, ?_⟩
    rw [Finding.addition, required, requirementOn_of_requires found asked]
    simp
  · exact fun grounded taken => grounded.ne_baseline apart taken.start.1

/-- A deterministic variable under the default hierarchy, and a view of it that is random. -/
def randomView : Setting where
  store := { references := [⟨⟨0, "a"⟩, .variable, some "a"⟩, ⟨⟨1, "view"⟩, .adapt ⟨0, "a"⟩, none⟩] }
  typing := ⟨⟨[
    (⟨0, "a"⟩, Profile.initial "a" "" (["DET"].filterMap Hierarchy.schemes.find?) none),
    (⟨1, "view"⟩, Profile.initial "view" ""
      (["DET", "RND"].filterMap Hierarchy.schemes.find?) none)]⟩⟩
  hierarchy := .schemes
  severity := fun _ => .error

set_option maxRecDepth 2000 in
/-- The view is resolved to random encryption, which is no subtype of a deterministic one. -/
theorem conversion_of_violation_randomView : ∃ extraction,
    (randomView.extract [⟨"view", "a", 3, "", .digits⟩] Ledger.empty).result = .ok extraction ∧
      extraction.violations = [⟨"view", "a", 3, "", .digits⟩] ∧
      ∃ identifier ∈ ["view", "a"], ∃ added,
        extraction.ledger.conversionsFor identifier = [] ++ added ∧
          ⟨3, "RND", "DET", .digits⟩ ∈ added := by
  have evaluated : (randomView.extract [⟨"view", "a", 3, "", .digits⟩]
      Ledger.empty).result.toOption.map Extraction.violations = some [⟨"view", "a", 3, "", .digits⟩] := by
    cbv
  have resolvedLeft : ((randomView.extract [⟨"view", "a", 3, "", .digits⟩] Ledger.empty).typing.profile
      ⟨⟨1, "view"⟩, .adapt ⟨0, "a"⟩, none⟩).resolved.map Qualifier.name = some "RND" := by
    cbv
  have resolvedRight : ((randomView.extract [⟨"view", "a", 3, "", .digits⟩] Ledger.empty).typing.profile
      ⟨⟨0, "a"⟩, .variable, some "a"⟩).resolved.map Qualifier.name = some "DET" := by
    cbv
  obtain ⟨extraction, completed, violations⟩ := Outcome.exists_of_toOption_map evaluated
  have violated : (⟨"view", "a", 3, "", .digits⟩ : Constraint) ∈ extraction.violations := by
    simp [violations]
  obtain ⟨⟨left, right, lower, upper, leftFound, rightFound, leftHeld, rightHeld, _, converts, grounded⟩,
    schemes⟩ := conversion_of_violation completed violated
  obtain rfl := Option.some.inj leftFound
  obtain rfl := Option.some.inj rightFound
  rw [leftHeld] at resolvedLeft
  rw [rightHeld] at resolvedRight
  obtain ⟨identifier, own, added, appended, recorded⟩ :=
    (converts (by decide) (by decide) (by decide) (by decide) (by decide)).1 (grounded schemes)
  rw [Option.some.inj resolvedLeft, Option.some.inj resolvedRight] at recorded
  exact ⟨extraction, completed, violations, identifier, own, added, appended, recorded⟩

end Setting
end SchemeTyping
