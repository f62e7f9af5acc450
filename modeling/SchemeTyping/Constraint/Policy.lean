import SchemeTyping.Constraint.Basic
import SchemeTyping.Table

/-! Severity of a violated constraint: a table of exceptions over a default. -/
namespace SchemeTyping

/-- Whether a violation counts as an error or is tolerated. -/
inductive Severity where
  | error
  | warning
  deriving DecidableEq, Repr

namespace Severity

/-- The word for a severity in unit files. -/
def label : Severity → String
  | .error => "error"
  | .warning => "warning"

/-- The name of a severity in messages. -/
def title : Severity → String
  | .error => "ERROR"
  | .warning => "WARNING"

def ofLabel? (label : String) : Option Severity :=
  [Severity.error, .warning].find? (·.label == label)

end Severity

/-- The severity of each constraint. Constraints that agree share one severity; the table holds the
plain ones. -/
structure Policy where
  default : Severity := .error
  overrides : Table Constraint Severity := Table.empty
  deriving DecidableEq

namespace Policy

def status (policy : Policy) (constraint : Constraint) : Severity :=
  (policy.overrides.find? constraint.plain).getD policy.default

def setStatus (policy : Policy) (constraint : Constraint) (severity : Severity) : Policy :=
  { policy with overrides := policy.overrides.put constraint.plain severity }

/-- A policy from its exceptions; the last one on a constraint stays. -/
def ofList (default : Severity) (exceptions : List (Constraint × Severity)) : Policy :=
  exceptions.foldl (fun policy exception => policy.setStatus exception.1 exception.2) { default }

/-- Tolerate every one of some constraints. -/
def tolerate (policy : Policy) (constraints : List Constraint) : Policy :=
  constraints.foldl (fun policy constraint => policy.setStatus constraint .warning) policy

/-- The policy in one line. -/
def toText (policy : Policy) : String :=
  "StaticSeverityPolicy(default=" ++ policy.default.title ++ ", " ++
    toString policy.overrides.size ++ " override(s))"

end Policy
end SchemeTyping
