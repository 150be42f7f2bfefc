/-!
# Outcomes and exit codes

Every way in which a guarded run can end has a kind and an exit code of its
own. The exit code of a stage's own process is kept beside it, and is used in
its place for runs that were handed through, or on request.
-/

namespace GuardedInstall

/-- The exit codes of the program itself. -/
inductive ExitCode where
  | ok
  | dryRunFailed
  | cacheFailed
  | buildFailed
  | analysisError
  | rootNotFound
  | usage
  | incomplete
  | policyFailure
  deriving DecidableEq, Repr

namespace ExitCode

/-- The number of an exit code. -/
def number : ExitCode → Nat
  | ok => 0
  | dryRunFailed => 120
  | cacheFailed => 121
  | buildFailed => 122
  | analysisError => 123
  | rootNotFound => 124
  | usage => 125
  | incomplete => 126
  | policyFailure => 127

/-- The name of an exit code. -/
def name : ExitCode → String
  | ok => "OK"
  | dryRunFailed => "DRY_RUN_FAILED"
  | cacheFailed => "CACHE_FAILED"
  | buildFailed => "BUILD_FAILED"
  | analysisError => "ANALYSIS_ERROR"
  | rootNotFound => "ROOT_NOT_FOUND"
  | usage => "USAGE"
  | incomplete => "INCOMPLETE"
  | policyFailure => "POLICY_FAILURE"

/-- Every exit code. -/
def all : List ExitCode :=
  [ok, dryRunFailed, cacheFailed, buildFailed, analysisError, rootNotFound, usage,
    incomplete, policyFailure]

/-- The exit code of a name. -/
def ofName? (text : String) : Option ExitCode :=
  all.find? fun code => code.name = text

/-- Different exit codes have different numbers. -/
theorem number_injective {first second : ExitCode} (same : first.number = second.number) :
    first = second := by
  cases first <;> cases second <;> simp_all [number]

end ExitCode

/-- The kinds of outcomes. -/
inductive OutcomeKind where
  | ok
  | passthrough
  | safeFailure
  | riskFailure
  | policyFailure
  | incomplete
  | analysisFailure
  | usageFailure
  | environmentFailure
  deriving DecidableEq, Repr

namespace OutcomeKind

/-- The name of a kind. -/
def name : OutcomeKind → String
  | ok => "ok"
  | passthrough => "passthrough"
  | safeFailure => "safe_failure"
  | riskFailure => "risk_failure"
  | policyFailure => "policy_failure"
  | incomplete => "incomplete"
  | analysisFailure => "analysis_failure"
  | usageFailure => "usage_failure"
  | environmentFailure => "environment_failure"

/-- Every kind. -/
def all : List OutcomeKind :=
  [ok, passthrough, safeFailure, riskFailure, policyFailure, incomplete, analysisFailure,
    usageFailure, environmentFailure]

/-- The kind of a name. -/
def ofName? (text : String) : Option OutcomeKind :=
  all.find? fun kind => kind.name = text

end OutcomeKind

/-- How a stage's process ended. A process that a signal killed has no exit
code. -/
structure StageResult where
  succeeded : Bool
  exitCode : Option Int
  deriving DecidableEq, Repr

/-- How a run ended: the kind, the program's exit code, the exit code of the
process that decided, and a message. -/
structure Outcome where
  kind : OutcomeKind
  code : ExitCode
  native : Option Int
  message : Option String
  deriving DecidableEq, Repr

namespace Outcome

/-- Whether the run did what it was asked to. -/
def isOk (outcome : Outcome) : Bool :=
  outcome.kind == .ok || outcome.kind == .passthrough

/-- All stages succeeded. -/
def success : Outcome :=
  ⟨.ok, .ok, none, none⟩

/-- The invocation was handed through and ended with an exit code. -/
def passthrough (exitCode : Int) : Outcome :=
  ⟨.passthrough, .ok, some exitCode, none⟩

/-- A stage failed before code of a package could have run. -/
def safeFailure (code : ExitCode) (stage : Option StageResult) (message : Option String) :
    Outcome :=
  ⟨.safeFailure, code, stage.bind (·.exitCode), message⟩

/-- A stage failed in which code of packages runs. -/
def riskFailure (code : ExitCode) (stage : StageResult) : Outcome :=
  ⟨.riskFailure, code, stage.exitCode, none⟩

/-- The exit code of a stage's process, where it may take the place of the
program's own. -/
def preserved (outcome : Outcome) : Option Int :=
  if outcome.kind = .safeFailure ∨ outcome.kind = .riskFailure then
    outcome.native.filter (· ≠ 0)
  else none

/-- The exit code of the program. -/
def exitStatus (outcome : Outcome) (preserveNative : Bool) : Int :=
  if outcome.kind = .passthrough then outcome.native.getD 0
  else if preserveNative then outcome.preserved.getD outcome.code.number
  else outcome.code.number

end Outcome

end GuardedInstall
