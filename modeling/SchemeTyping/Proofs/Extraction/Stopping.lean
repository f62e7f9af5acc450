import SchemeTyping.Hierarchy.Schemes
import SchemeTyping.Proofs.Extraction.Survey
import SchemeTyping.Proofs.Hierarchy.Reachability
import SchemeTyping.Proofs.Reference.Store

/-! Where a check stops. It fails at the first constraint that cannot be judged, for a reason that the
constraint, the store and the hierarchy give, and it leaves what the constraints before that one have come
to. -/
namespace SchemeTyping

namespace Setting
variable {setting : Setting} {constraint : Constraint} {constraints before : List Constraint}
  {progress next : Progress} {failure : Failure}

/-- The qualifier to which the reference of an identifier is resolved. -/
def resolvedEnd? (setting : Setting) (identifier : String) : Option Qualifier :=
  (setting.store.find? identifier).bind fun reference => (setting.profile reference).resolved

/-- Why a constraint cannot be judged. Its ends are looked up first, the left one before the right one. The
qualifiers to which both are resolved are looked up next, that of the right end before that of the left. -/
inductive Stops (setting : Setting) (constraint : Constraint) : Failure → Prop where
  | leftMissing (missing : constraint.left ∉ setting.store.identifiers) :
      Stops setting constraint (.unknownReference ⟨constraint.left⟩)
  | rightMissing (present : constraint.left ∈ setting.store.identifiers)
      (missing : constraint.right ∉ setting.store.identifiers) :
      Stops setting constraint (.unknownReference ⟨constraint.right⟩)
  | upperUnranked {lower upper : Qualifier} (left : setting.resolvedEnd? constraint.left = some lower)
      (right : setting.resolvedEnd? constraint.right = some upper)
      (unranked : upper.name ∉ setting.hierarchy.names) :
      Stops setting constraint (.hierarchy (.unknown upper.name))
  | lowerUnranked {lower upper : Qualifier} (left : setting.resolvedEnd? constraint.left = some lower)
      (right : setting.resolvedEnd? constraint.right = some upper)
      (ranked : upper.name ∈ setting.hierarchy.names) (unranked : lower.name ∉ setting.hierarchy.names) :
      Stops setting constraint (.hierarchy (.unknown lower.name))

theorem reference_eq_error {identifier : String} :
    setting.reference identifier = .error failure ↔
      identifier ∉ setting.store.identifiers ∧ failure = .unknownReference ⟨identifier⟩ := by
  rw [← Store.find?_eq_none, Setting.reference, Outcome.mapError_eq_error, Store.get]
  cases setting.store.find? identifier with
  | none => simp [eq_comm]
  | some found => simp

theorem mem_identifiers_of_reference {identifier : String} {reference : Reference}
    (found : setting.reference identifier = .ok reference) : identifier ∈ setting.store.identifiers := by
  obtain ⟨member, own⟩ := Store.find?_eq_some (reference_eq_ok.mp found)
  exact List.mem_map.mpr ⟨reference, member, own⟩

theorem ends_eq_error : setting.ends constraint = .error failure ↔
    constraint.left ∉ setting.store.identifiers ∧ failure = .unknownReference ⟨constraint.left⟩ ∨
      constraint.left ∈ setting.store.identifiers ∧
        constraint.right ∉ setting.store.identifiers ∧
          failure = .unknownReference ⟨constraint.right⟩ := by
  unfold ends
  split
  · next other failed =>
    obtain ⟨missing, rfl⟩ := reference_eq_error.mp failed
    simp [missing, eq_comm]
  · next left found =>
    have present := mem_identifiers_of_reference found
    split
    · next other failed =>
      obtain ⟨missing, rfl⟩ := reference_eq_error.mp failed
      simp [present, missing, eq_comm]
    · next right foundRight => simp [present, mem_identifiers_of_reference foundRight]

theorem judge_eq_error {lower upper : Qualifier} : setting.judge constraint lower upper = .error failure ↔
    ∃ fault, setting.hierarchy.isSubtype lower.name upper.name = .error fault ∧
      failure = .hierarchy fault := by
  unfold judge
  split
  · next fault failed => simp [failed, eq_comm]
  · next holds => simp [holds]
  · next fails =>
    rw [fails]
    split <;> simp

theorem verdictOn_eq_error {left right : Reference} :
    setting.verdictOn constraint left right = .error failure ↔ ∃ lower upper fault,
      (setting.profile left).resolved = some lower ∧ (setting.profile right).resolved = some upper ∧
        setting.hierarchy.isSubtype lower.name upper.name = .error fault ∧
          failure = .hierarchy fault := by
  unfold verdictOn
  split
  · next lower upper heldLeft heldRight =>
    rw [judge_eq_error]
    simp [heldLeft, heldRight]
  · next unsettled =>
    constructor
    · intro failed
      cases failed
    · rintro ⟨lower, upper, _, heldLeft, heldRight, _⟩
      exact absurd heldRight (unsettled lower upper heldLeft)

theorem ends_of_resolvedEnd? {lower upper : Qualifier}
    (left : setting.resolvedEnd? constraint.left = some lower)
    (right : setting.resolvedEnd? constraint.right = some upper) :
    ∃ first second, setting.ends constraint = .ok (first, second) ∧
      (setting.profile first).resolved = some lower ∧ (setting.profile second).resolved = some upper := by
  obtain ⟨first, foundLeft, heldLeft⟩ := Option.bind_eq_some_iff.mp left
  obtain ⟨second, foundRight, heldRight⟩ := Option.bind_eq_some_iff.mp right
  exact ⟨first, second, ends_eq_ok.mpr ⟨foundLeft, foundRight⟩, heldLeft, heldRight⟩

/-- A constraint has no verdict exactly if something stops it. -/
theorem verdict_eq_error :
    setting.verdict constraint = .error failure ↔ setting.Stops constraint failure := by
  unfold verdict
  constructor
  · intro failed
    split at failed
    · next other absent =>
      obtain rfl := Except.error.inj failed
      rcases ends_eq_error.mp absent with ⟨missing, rfl⟩ | ⟨present, missing, rfl⟩
      · exact .leftMissing missing
      · exact .rightMissing present missing
    · next left right found =>
      obtain ⟨foundLeft, foundRight⟩ := ends_eq_ok.mp found
      obtain ⟨lower, upper, fault, heldLeft, heldRight, untested, rfl⟩ :=
        verdictOn_eq_error.mp failed
      have leftEnd : setting.resolvedEnd? constraint.left = some lower :=
        Option.bind_eq_some_iff.mpr ⟨left, foundLeft, heldLeft⟩
      have rightEnd : setting.resolvedEnd? constraint.right = some upper :=
        Option.bind_eq_some_iff.mpr ⟨right, foundRight, heldRight⟩
      rcases Hierarchy.isSubtype_eq_error.mp untested with ⟨unranked, rfl⟩ | ⟨ranked, unranked, rfl⟩
      · exact .upperUnranked leftEnd rightEnd unranked
      · exact .lowerUnranked leftEnd rightEnd ranked unranked
  · intro stops
    cases stops with
    | leftMissing missing => rw [ends_eq_error.mpr (.inl ⟨missing, rfl⟩)]
    | rightMissing present missing => rw [ends_eq_error.mpr (.inr ⟨present, missing, rfl⟩)]
    | upperUnranked left right unranked =>
      obtain ⟨first, second, found, heldLeft, heldRight⟩ := ends_of_resolvedEnd? left right
      rw [found]
      exact verdictOn_eq_error.mpr ⟨_, _, _, heldLeft, heldRight,
        Hierarchy.isSubtype_eq_error.mpr (.inl ⟨unranked, rfl⟩), rfl⟩
    | lowerUnranked left right ranked unranked =>
      obtain ⟨first, second, found, heldLeft, heldRight⟩ := ends_of_resolvedEnd? left right
      rw [found]
      exact verdictOn_eq_error.mpr ⟨_, _, _, heldLeft, heldRight,
        Hierarchy.isSubtype_eq_error.mpr (.inr ⟨ranked, unranked, rfl⟩), rfl⟩

/-- Something stops a constraint exactly if an end is missing, or both are resolved and one of them to a
qualifier that is not ranked. -/
theorem exists_stops_iff : (∃ failure, setting.Stops constraint failure) ↔
    constraint.left ∉ setting.store.identifiers ∨ constraint.right ∉ setting.store.identifiers ∨
      ∃ lower upper, setting.resolvedEnd? constraint.left = some lower ∧
        setting.resolvedEnd? constraint.right = some upper ∧
          (lower.name ∉ setting.hierarchy.names ∨ upper.name ∉ setting.hierarchy.names) := by
  constructor
  · rintro ⟨failure, stops⟩
    cases stops with
    | leftMissing missing => exact .inl missing
    | rightMissing _ missing => exact .inr (.inl missing)
    | upperUnranked left right unranked => exact .inr (.inr ⟨_, _, left, right, .inr unranked⟩)
    | lowerUnranked left right _ unranked => exact .inr (.inr ⟨_, _, left, right, .inl unranked⟩)
  · intro reason
    by_cases present : constraint.left ∈ setting.store.identifiers
    · rcases reason with missing | missing | ⟨lower, upper, left, right, unranked⟩
      · exact absurd present missing
      · exact ⟨_, .rightMissing present missing⟩
      · by_cases ranked : upper.name ∈ setting.hierarchy.names
        · exact ⟨_, .lowerUnranked left right ranked (unranked.resolve_right (not_not_intro ranked))⟩
        · exact ⟨_, .upperUnranked left right ranked⟩
    · exact ⟨_, .leftMissing present⟩

/-- The change between two schemes, if it can be told: where neither is held there is none, but one that is
not held cannot be named beside one that is. -/
def tellChange? (constraint : Constraint) : Option Qualifier → Option Qualifier → Option (Option Conversion)
  | none, none => some none
  | some source, some target => some (change? constraint (some source) (some target))
  | none, some _ => none
  | some _, none => none

/-- The conversion rule, which can be followed only as far as the schemes it names are held. -/
def tellRequirement? (setting : Setting) (constraint : Constraint) (left right : Reference) :
    Option (Option Requirement) :=
  let required (attributed : String) : Option (Option Requirement) :=
    (tellChange? constraint (setting.effective left) (setting.effective right)).map
      (Option.map fun conversion => ⟨attributed, conversion⟩)
  if isExempt constraint left right then some none
  else if setting.startsAtBaseline left right then
    if setting.standsForParameter right then some none else required left.identifier
  else if setting.isResolved left && setting.isResolved right then
    required (if left.kind.isAdapted then right.identifier else left.identifier)
  else some none

theorem effective_of_isResolved {reference : Reference} (resolved : setting.isResolved reference = true) :
    ∃ scheme, setting.effective reference = some scheme := by
  apply Option.isSome_iff_exists.mp
  rw [effective, Profile.effective, Option.isSome_or, Bool.or_eq_true]
  exact .inr resolved

theorem tellChange?_of_held {left right : Reference}
    (leftHeld : ∃ source, setting.effective left = some source)
    (rightHeld : ∃ target, setting.effective right = some target) :
    tellChange? constraint (setting.effective left) (setting.effective right) =
      some (change? constraint (setting.effective left) (setting.effective right)) := by
  obtain ⟨source, heldLeft⟩ := leftHeld
  obtain ⟨target, heldRight⟩ := rightHeld
  rw [heldLeft, heldRight, tellChange?]

/-- The rule can always be followed: it names schemes only where both are held. -/
theorem tellRequirement?_eq (setting : Setting) (constraint : Constraint) (left right : Reference) :
    setting.tellRequirement? constraint left right =
      some (setting.requirementOn constraint left right) := by
  unfold tellRequirement? requirementOn
  split
  · rfl
  · split
    · next starts =>
      obtain ⟨baseline, resolved⟩ := Bool.and_eq_true_iff.mp starts
      have leftHeld : ∃ source, setting.effective left = some source := by
        cases held : setting.effective left with
        | some source => exact ⟨source, rfl⟩
        | none =>
          rw [held] at baseline
          cases baseline
      split
      · rfl
      · rw [tellChange?_of_held leftHeld (effective_of_isResolved resolved)]
        rfl
    · split
      · next both =>
        obtain ⟨leftResolved, rightResolved⟩ := Bool.and_eq_true_iff.mp both
        rw [tellChange?_of_held (effective_of_isResolved leftResolved)
          (effective_of_isResolved rightResolved)]
        rfl
      · rfl

/-- What has a verdict is taken through the conversion rule without a failure. -/
theorem convert_of_verdict {verdict : Verdict} (judged : setting.verdict constraint = .ok verdict)
    (progress : Progress) : ∃ next conversion, setting.convert progress constraint = .ok (next, conversion) := by
  unfold Setting.verdict at judged
  unfold convert
  cases found : setting.ends constraint with
  | error failure =>
    rw [found] at judged
    cases judged
  | ok both => exact ⟨_, _, rfl⟩

/-- A constraint taken up as a whole: its verdict, what it is blamed for, its conversion. A failure leaves
what is there by then. -/
def takeUp (setting : Setting) (progress : Progress) (constraint : Constraint) :
    Progress × Option Failure :=
  match setting.verdict constraint with
  | .error failure => (progress, some failure)
  | .ok verdict =>
    let judged := (progress.judge constraint verdict).blame constraint verdict
    match setting.convert judged constraint with
    | .error failure => (judged, some failure)
    | .ok (next, _) => (next, none)

/-- Constraints taken up one after the other until one fails. -/
def takeUpAll (setting : Setting) : Progress → List Constraint → Progress × Option Failure
  | progress, [] => (progress, none)
  | progress, constraint :: rest =>
    match setting.takeUp progress constraint with
    | (left, some failure) => (left, some failure)
    | (next, none) => setting.takeUpAll next rest

/-- Nothing of a constraint that is stopped is kept. -/
theorem takeUp_of_stops (stops : setting.Stops constraint failure) (progress : Progress) :
    setting.takeUp progress constraint = (progress, some failure) := by
  rw [takeUp, verdict_eq_error.mpr stops]

/-- A constraint that nothing stops is taken up as its finding is. -/
theorem takeUp_of_examine {finding : Finding} (examined : setting.examine constraint = .ok finding)
    (progress : Progress) : setting.takeUp progress constraint = (progress.note finding, none) := by
  obtain ⟨left, right, found, judged, rfl, name, required⟩ := examine_eq_ok.mp examined
  simp only [takeUp, verdict, convert, found, judged, ← name, ← required]
  rfl

theorem examine_eq_error :
    setting.examine constraint = .error failure ↔ setting.Stops constraint failure := by
  rw [← verdict_eq_error]
  unfold examine verdict
  cases setting.ends constraint with
  | error other => simp
  | ok both => exact Outcome.map_eq_error

/-- Taking up constraints one after the other comes to what a survey of them finds. -/
theorem takeUpAll_eq (setting : Setting) (constraints : List Constraint) (progress : Progress) :
    setting.takeUpAll progress constraints =
      ((setting.survey constraints).1.foldl Progress.note progress, (setting.survey constraints).2) := by
  induction constraints generalizing progress with
  | nil => rfl
  | cons constraint rest ih =>
    unfold takeUpAll survey
    cases examined : setting.examine constraint with
    | error failure =>
      rw [takeUp_of_stops (examine_eq_error.mp examined)]
      rfl
    | ok finding =>
      rw [takeUp_of_examine examined]
      exact ih _

/-- Two lists taken up: the second one after the first, if that completes. -/
theorem takeUpAll_append (completed : setting.takeUpAll progress before = (next, none)) :
    setting.takeUpAll progress (before ++ constraints) = setting.takeUpAll next constraints := by
  induction before generalizing progress with
  | nil =>
    obtain rfl := congrArg Prod.fst completed
    rfl
  | cons constraint rest ih =>
    cases taken : setting.takeUp progress constraint with
    | mk reached ending =>
      simp only [List.cons_append, takeUpAll, taken] at completed ⊢
      cases ending with
      | some failure => cases completed
      | none => exact ih completed

theorem takeUpAll_of_unstopped (unstopped : ∀ constraint ∈ constraints, ∀ failure,
    ¬ setting.Stops constraint failure) (progress : Progress) :
    ∃ next, setting.takeUpAll progress constraints = (next, none) := by
  induction constraints generalizing progress with
  | nil => exact ⟨progress, rfl⟩
  | cons constraint rest ih =>
    unfold takeUpAll
    cases examined : setting.examine constraint with
    | error failure =>
      exact absurd (examine_eq_error.mp examined) (unstopped constraint List.mem_cons_self failure)
    | ok finding =>
      rw [takeUp_of_examine examined]
      exact ih (fun other member => unstopped other (List.mem_cons_of_mem _ member)) _

/-- The constraints before the first one that is stopped, and why that one is. -/
def StopsAfter (setting : Setting) (constraints before : List Constraint) (failure : Failure) : Prop :=
  ∃ constraint after, constraints = before ++ constraint :: after ∧
    (∀ earlier ∈ before, ∀ other, ¬ setting.Stops earlier other) ∧ setting.Stops constraint failure

theorem takeUpAll_of_stopsAfter (stops : setting.StopsAfter constraints before failure)
    (progress : Progress) : ∃ next, setting.takeUpAll progress before = (next, none) ∧
      setting.takeUpAll progress constraints = (next, some failure) := by
  obtain ⟨constraint, after, rfl, unstopped, stopped⟩ := stops
  obtain ⟨next, completed⟩ := takeUpAll_of_unstopped unstopped progress
  refine ⟨next, completed, ?_⟩
  rw [takeUpAll_append completed, takeUpAll, takeUp_of_stops stopped]

/-- Either nothing stops any of some constraints, or there is a first one that is stopped. -/
theorem unstopped_or_stopsAfter (setting : Setting) (constraints : List Constraint) :
    (∀ constraint ∈ constraints, ∀ failure, ¬ setting.Stops constraint failure) ∨
      ∃ before failure, setting.StopsAfter constraints before failure := by
  induction constraints with
  | nil =>
    left
    intro constraint member
    cases member
  | cons constraint rest ih =>
    by_cases stopped : ∃ failure, setting.Stops constraint failure
    · obtain ⟨failure, stops⟩ := stopped
      right
      refine ⟨[], failure, constraint, rest, rfl, ?_, stops⟩
      intro earlier member
      cases member
    · -- The head is passed, so what comes after it decides, with the head among what is before.
      have unstopped (failure : Failure) : ¬ setting.Stops constraint failure := fun stops =>
        stopped ⟨failure, stops⟩
      rcases ih with allUnstopped | ⟨before, failure, stopping, after, rfl, earlierUnstopped, stops⟩
      · left
        intro other member
        rcases List.mem_cons.mp member with rfl | later
        · exact unstopped
        · exact allUnstopped other later
      · right
        refine ⟨constraint :: before, failure, stopping, after, rfl, ?_, stops⟩
        intro earlier member
        rcases List.mem_cons.mp member with rfl | later
        · exact unstopped
        · exact earlierUnstopped earlier later

/-- A check takes up its constraints one after the other, and tells about it before and behind. -/
theorem check_eq_takeUpAll (setting : Setting) (progress : Progress) (constraints : List Constraint) :
    setting.check progress constraints =
      match setting.takeUpAll (progress.tell .info "Verifying the concrete typing...") constraints with
      | (left, some failure) => (left, some failure)
      | (next, none) =>
        ((next.tell .info ("Finished verifying the concrete typing. " ++
          toString next.violations.length ++ " error(s)")).tell .info
            ("Finished extracting type conversions. " ++ toString next.ledger.size ++
              " conversion(s)"), none) := by
  rw [takeUpAll_eq]
  unfold check
  cases setting.survey constraints with
  | mk findings ending => cases ending <;> rfl

/-- What a check reaches is what taking up its constraints does; the entries it makes in the journal
behind them are all it adds. -/
theorem outputs_check (setting : Setting) (progress : Progress) (constraints : List Constraint) :
    let reached := setting.takeUpAll (progress.tell .info "Verifying the concrete typing...") constraints
    (setting.check progress constraints).2 = reached.2 ∧
      (setting.check progress constraints).1.violations = reached.1.violations ∧
      (setting.check progress constraints).1.diagnostics = reached.1.diagnostics ∧
      (setting.check progress constraints).1.written = reached.1.written ∧
      (setting.check progress constraints).1.ledger = reached.1.ledger := by
  rw [check_eq_takeUpAll]
  cases setting.takeUpAll (progress.tell .info "Verifying the concrete typing...") constraints with
  | mk next ending => cases ending <;> exact ⟨rfl, rfl, rfl, rfl, rfl⟩

theorem check_eq_some : (setting.check progress constraints).2 = some failure ↔
    ∃ before, setting.StopsAfter constraints before failure := by
  obtain ⟨ending, _⟩ := setting.outputs_check progress constraints
  rw [ending]
  constructor
  · intro failed
    rcases setting.unstopped_or_stopsAfter constraints with unstopped | ⟨before, other, stops⟩
    · obtain ⟨next, completed⟩ := takeUpAll_of_unstopped unstopped _
      rw [completed] at failed
      cases failed
    · obtain ⟨next, _, stopped⟩ := takeUpAll_of_stopsAfter stops _
      rw [stopped] at failed
      exact ⟨before, Option.some.inj failed ▸ stops⟩
  · rintro ⟨before, stops⟩
    obtain ⟨next, _, stopped⟩ := takeUpAll_of_stopsAfter stops
      (progress.tell .info "Verifying the concrete typing...")
    rw [stopped]

/-- A check fails exactly if some constraint cannot be judged, and then for the reason of the first such
constraint. What it has come to by then is what a check of the constraints before that one, which completes,
comes to. The step to conversions never fails: whatever has a verdict is taken through it, and the schemes
that its rule names are held. -/
theorem check_stops (setting : Setting) (progress : Progress) (constraints : List Constraint) :
    ((∃ failure, (setting.check progress constraints).2 = some failure) ↔
      ∃ constraint ∈ constraints, constraint.left ∉ setting.store.identifiers ∨
        constraint.right ∉ setting.store.identifiers ∨
          ∃ lower upper, setting.resolvedEnd? constraint.left = some lower ∧
            setting.resolvedEnd? constraint.right = some upper ∧
              (lower.name ∉ setting.hierarchy.names ∨ upper.name ∉ setting.hierarchy.names)) ∧
    (∀ failure, (setting.check progress constraints).2 = some failure ↔
      ∃ before, setting.StopsAfter constraints before failure) ∧
    (∀ before failure, setting.StopsAfter constraints before failure →
      (setting.check progress before).2 = none ∧
      (setting.check progress constraints).1.violations = (setting.check progress before).1.violations ∧
      (setting.check progress constraints).1.diagnostics =
        (setting.check progress before).1.diagnostics ∧
      (setting.check progress constraints).1.written = (setting.check progress before).1.written ∧
      (setting.check progress constraints).1.ledger = (setting.check progress before).1.ledger) ∧
    (∀ constraint verdict, setting.verdict constraint = .ok verdict → ∀ reached, ∃ next conversion,
      setting.convert reached constraint = .ok (next, conversion)) ∧
    ∀ constraint left right, setting.tellRequirement? constraint left right =
      some (setting.requirementOn constraint left right) := by
  refine ⟨?_, fun failure => check_eq_some, ?_, ?_, setting.tellRequirement?_eq⟩
  · constructor
    · rintro ⟨failure, failed⟩
      obtain ⟨before, constraint, after, rfl, _, stops⟩ := check_eq_some.mp failed
      exact ⟨constraint, List.mem_append_right _ List.mem_cons_self, exists_stops_iff.mp ⟨failure, stops⟩⟩
    · rintro ⟨constraint, member, reason⟩
      obtain ⟨failure, stops⟩ := exists_stops_iff.mpr reason
      rcases setting.unstopped_or_stopsAfter constraints with unstopped | ⟨before, first, stopped⟩
      · exact absurd stops (unstopped constraint member failure)
      · exact ⟨first, check_eq_some.mpr ⟨before, stopped⟩⟩
  · intro before failure stops
    obtain ⟨next, completed, stopped⟩ := takeUpAll_of_stopsAfter stops
      (progress.tell .info "Verifying the concrete typing...")
    obtain ⟨ending, violations, diagnostics, written, ledger⟩ := setting.outputs_check progress before
    obtain ⟨_, violated, diagnosed, wrote, entered⟩ := setting.outputs_check progress constraints
    rw [completed] at ending violations diagnostics written ledger
    rw [stopped] at violated diagnosed wrote entered
    exact ⟨ending, violated.trans violations.symm, diagnosed.trans diagnostics.symm,
      wrote.trans written.symm, entered.trans ledger.symm⟩
  · intro constraint verdict judged reached
    exact convert_of_verdict judged reached

/-- Two variables under the default schemes, and one that is resolved to a qualifier that is not ranked. -/
def unrankedEnd : Setting where
  store := { references := [⟨⟨0, "x"⟩, .variable, some "x"⟩, ⟨⟨1, "y"⟩, .variable, some "y"⟩,
    ⟨⟨2, "z"⟩, .variable, some "z"⟩] }
  typing := ⟨⟨[
    (⟨0, "x"⟩, { name := "x", resolved := Hierarchy.schemes.find? "RND" }),
    (⟨1, "y"⟩, { name := "y", resolved := Hierarchy.schemes.find? "CLEAR" }),
    (⟨2, "z"⟩, { name := "z", resolved := some ⟨"ODD", "", by decide⟩ })]⟩⟩
  hierarchy := .schemes
  severity := fun _ => .error

/-- The second constraint is stopped at its right end. The first one is violated and converts, and the third
one, both of whose ends are missing, is not looked at. -/
theorem check_stops_unrankedEnd :
    let constraints : List Constraint := [⟨"x", "y", 3, "", .digits⟩, ⟨"y", "z", 4, "", .digits⟩,
      ⟨"p", "q", 5, "", .digits⟩]
    (unrankedEnd.check {} constraints).2 = some (.hierarchy (.unknown "ODD")) ∧
      (unrankedEnd.check {} constraints).1.violations = [⟨"x", "y", 3, "", .digits⟩] ∧
      (unrankedEnd.check {} constraints).1.diagnostics =
        ["x <: y @ 3", "Line 3: x RND => CLEAR"] := by
  intro constraints
  have judged : unrankedEnd.verdict ⟨"x", "y", 3, "", .digits⟩ = .ok .violated := by decide +kernel
  have stops : unrankedEnd.StopsAfter constraints [⟨"x", "y", 3, "", .digits⟩]
      (.hierarchy (.unknown "ODD")) := by
    refine ⟨⟨"y", "z", 4, "", .digits⟩, [⟨"p", "q", 5, "", .digits⟩], rfl, ?_, ?_⟩
    · intro earlier member other stopped
      obtain rfl := List.mem_singleton.mp member
      rw [verdict_eq_error.mpr stopped] at judged
      cases judged
    · exact verdict_eq_error.mp (by decide +kernel)
  obtain ⟨_, stopped, left, _⟩ := check_stops unrankedEnd {} constraints
  obtain ⟨_, violations, diagnostics, _⟩ := left _ _ stops
  refine ⟨(stopped _).mpr ⟨_, stops⟩, ?_, ?_⟩
  · rw [violations]
    decide +kernel
  · rw [diagnostics]
    decide +kernel

end Setting
end SchemeTyping
