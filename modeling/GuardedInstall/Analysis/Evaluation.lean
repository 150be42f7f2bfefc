import GuardedInstall.Json.Value

/-!
# Evaluations

What the analysis service says about a set of packages: whether it fails the
policy, how many packages are still waiting, where to read more, and for each
package what was rejected.
-/

namespace GuardedInstall.Analysis

/-- How grave a rejection is. -/
inductive Severity where
  | info
  | low
  | medium
  | high
  | critical
  deriving DecidableEq, Repr

namespace Severity

/-- The name of a severity. -/
def name : Severity → String
  | info => "info"
  | low => "low"
  | medium => "medium"
  | high => "high"
  | critical => "critical"

/-- Every severity, from the least to the gravest. -/
def all : List Severity := [info, low, medium, high, critical]

/-- The severity of a name. -/
def ofName? (text : String) : Option Severity :=
  all.find? fun severity => severity.name = text

end Severity

/-- A rejection of a package. The domain is kept as the service sent it. -/
structure Rejection where
  title : String
  suppressed : Bool
  severity : Severity
  domain : Option Json.Value

/-- What was found about a package. -/
structure Finding where
  registry : String
  name : String
  version : String
  rejections : List Rejection

/-- The evaluation of a set of packages. The link is kept as the service sent
it. -/
structure Evaluation where
  isFailure : Bool
  incompleteCount : Int
  jobLink : Option Json.Value
  findings : List Finding

end GuardedInstall.Analysis
