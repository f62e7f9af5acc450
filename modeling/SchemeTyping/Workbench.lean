import SchemeTyping.Extraction.Pass

/-! A workbench on which a unit is put together and examined by hand: modelled references under
handles, a store, a policy and numbered ledgers. A session works on the store and the policy that
were current when it was opened; it follows their changes until they are replaced. -/
namespace SchemeTyping

/-- An extraction session. A store or policy of its own is kept only once the workbench has
another. -/
structure Session where
  constraints : List Constraint
  hierarchy : Hierarchy
  store : Option Store := none
  policy : Option Policy := none
  ledger : Nat
  violations : List Constraint := []
  diagnostics : List String := []

/-- A completed extraction and the number of its ledger, which may have grown since. -/
structure Completed where
  extraction : Extraction
  ledger : Nat

structure Workbench where
  hierarchy : Hierarchy
  typing : Typing := Typing.empty
  modelled : Nat := 0
  pool : Table String Reference := Table.empty
  store : Store := Store.empty
  policy : Policy := {}
  ledgers : List Ledger := [Ledger.empty]
  shared : Nat := 0
  session : Option Session := none
  completed : Option Completed := none

namespace Workbench

/-! References. -/

/-- Model a reference and put it under a handle, in place of the one that was there. -/
def model (bench : Workbench) (handle identifier name : String) (flavour : Flavour)
    (candidates : List Qualifier) (declaration : Option Reference) (element : Option String)
    (explicit : Option Qualifier) : Except Kind.Fault (Workbench × Reference) :=
  (Kind.make identifier flavour (declaration.map Reference.entity)).map fun kind =>
    let reference := Reference.make bench.modelled identifier kind element
    let profile := Profile.initial identifier name candidates explicit
    ({ bench with
        typing := bench.typing.put reference.entity profile
        modelled := bench.modelled + 1
        pool := bench.pool.put handle reference }, reference)

/-- Add a reference to the store. -/
def register (bench : Workbench) (reference : Reference) : Except Store.Fault Workbench :=
  (bench.store.add reference).map fun store => { bench with store }

/-- Replace the store by one of some references; the session keeps the old one. -/
def restock (bench : Workbench) (references : List Reference) : Except Store.Fault Workbench :=
  (Store.ofList references).map fun store =>
    { bench with
      store
      session := bench.session.map fun session =>
        { session with store := session.store.or (some bench.store) } }

/-- Resolve one reference by hand. -/
def resolve (bench : Workbench) (reference : Reference) (qualifier : Qualifier) :
    Except ResolutionConflict Workbench :=
  (bench.typing.resolve reference.entity qualifier).map fun typing => { bench with typing }

/-- Change the profile of one reference by hand. -/
def revise (bench : Workbench) (reference : Reference) (change : Profile → Profile) :
    Workbench :=
  { bench with
    typing := bench.typing.put reference.entity (change (bench.typing.profile reference)) }

/-- Resolve every reference of the store that has candidates. -/
def assign (bench : Workbench) : Workbench × Option Failure :=
  let (typing, failure) := bench.hierarchy.assignAll bench.typing bench.store.references
  ({ bench with typing }, failure)

/-! Policies. -/

/-- Replace the policy; the session keeps the old one. -/
def adopt (bench : Workbench) (policy : Policy) : Workbench :=
  { bench with
    policy
    session := bench.session.map fun session =>
      { session with policy := session.policy.or (some bench.policy) } }

def setStatus (bench : Workbench) (constraint : Constraint) (severity : Severity) : Workbench :=
  { bench with policy := bench.policy.setStatus constraint severity }

def tolerate (bench : Workbench) (constraints : List Constraint) : Workbench :=
  { bench with policy := bench.policy.tolerate constraints }

/-! Ledgers. -/

/-- The ledger of a number. -/
def ledgerAt (bench : Workbench) (number : Nat) : Ledger :=
  (bench.ledgers[number]?).getD Ledger.empty

/-- The ledger that sessions share unless they have their own. -/
def ledger (bench : Workbench) : Ledger := bench.ledgerAt bench.shared

def putLedger (bench : Workbench) (number : Nat) (ledger : Ledger) : Workbench :=
  { bench with ledgers := bench.ledgers.set number ledger }

/-- Put a ledger on the bench under the next number. -/
def addLedger (bench : Workbench) (ledger : Ledger) : Workbench × Nat :=
  ({ bench with ledgers := bench.ledgers ++ [ledger] }, bench.ledgers.length)

/-- Share a new ledger from now on. -/
def newLedger (bench : Workbench) : Workbench :=
  let (bench, number) := bench.addLedger Ledger.empty
  { bench with shared := number }

/-- Record a conversion in the shared ledger, and tell whether its key was fresh. -/
def record (bench : Workbench) (identifier : String) (conversion : Conversion)
    (key : ConversionKey) (sighting : Sighting) : Workbench × Bool :=
  (bench.putLedger bench.shared (bench.ledger.record identifier conversion key sighting),
    bench.ledger.isFresh key)

/-! Sessions. -/

/-- Open a session on what is current, with the shared ledger or one of its own. -/
def openSession (bench : Workbench) (constraints : List Constraint) (share : Bool) : Workbench :=
  let (bench, number) := if share then (bench, bench.shared) else bench.addLedger Ledger.empty
  { bench with
    session := some { constraints, hierarchy := bench.hierarchy, ledger := number } }

/-- What a session checks constraints against. -/
def settingOf (bench : Workbench) (session : Session) : Setting where
  store := session.store.getD bench.store
  typing := bench.typing
  hierarchy := session.hierarchy
  severity := (session.policy.getD bench.policy).status

/-- Where a session stands before its next step. -/
def progressOf (bench : Workbench) (session : Session) : Progress where
  ledger := bench.ledgerAt session.ledger
  violations := session.violations
  diagnostics := session.diagnostics

/-- What one step of a session yields besides the changed workbench. -/
structure Step (Value : Type) where
  asked : List Constraint
  emitted : List String
  outcome : Except Failure Value

/-- Keep the progress that a session has made. -/
def advance {Value : Type} (bench : Workbench) (session : Session) (progress : Progress)
    (outcome : Except Failure Value) : Workbench × Step Value :=
  ({ bench.putLedger session.ledger progress.ledger with
      session := some { session with
        violations := progress.violations
        diagnostics := progress.diagnostics } },
    ⟨progress.asked, progress.diagnostics.drop session.diagnostics.length, outcome⟩)

/-- Verify one constraint in a session. -/
def verify (bench : Workbench) (session : Session) (constraint : Constraint) :
    Workbench × Step Bool :=
  let progress := bench.progressOf session
  match (bench.settingOf session).verdict constraint with
  | .error failure => bench.advance session progress (.error failure)
  | .ok verdict =>
    bench.advance session (progress.judge constraint verdict) (.ok verdict.isViolation)

/-- Extract the conversion of one constraint in a session. -/
def convert (bench : Workbench) (session : Session) (constraint : Constraint) :
    Workbench × Step (Option Conversion) :=
  let progress := bench.progressOf session
  match (bench.settingOf session).convert progress constraint with
  | .error failure => bench.advance session progress (.error failure)
  | .ok (progress, conversion) => bench.advance session progress (.ok conversion)

/-- Check all constraints of a session; its violations add up. -/
def check (bench : Workbench) (session : Session) : Workbench × Step (List Constraint) :=
  match (bench.settingOf session).check (bench.progressOf session) session.constraints with
  | (progress, some failure) => bench.advance session progress (.error failure)
  | (progress, none) => bench.advance session progress (.ok progress.violations)

/-! Whole passes. -/

/-- The setting that is current. -/
def setting (bench : Workbench) : Setting where
  store := bench.store
  typing := bench.typing
  hierarchy := bench.hierarchy
  severity := bench.policy.status

/-- Run a whole pass with the shared ledger or one of its own. -/
def extract (bench : Workbench) (constraints : List Constraint) (share : Bool) :
    Workbench × Except Failure Extraction :=
  let (bench, number) := if share then (bench, bench.shared) else bench.addLedger Ledger.empty
  let pass := bench.setting.extract constraints (bench.ledgerAt number)
  let bench := { bench.putLedger number pass.ledger with typing := pass.typing }
  match pass.result with
  | .error failure => (bench, .error failure)
  | .ok extraction => ({ bench with completed := some ⟨extraction, number⟩ }, .ok extraction)

/-- The last completed extraction, with its ledger as it is now. -/
def lastExtraction (bench : Workbench) : Option Extraction :=
  bench.completed.map fun completed =>
    { completed.extraction with ledger := bench.ledgerAt completed.ledger }

end Workbench
end SchemeTyping
