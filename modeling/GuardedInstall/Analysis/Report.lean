import GuardedInstall.Analysis.Evaluation
import GuardedInstall.Console.Print

/-!
# Reports of evaluations

A report is what a user is shown of an evaluation: a headline with the overall
status, a notice while packages are unprocessed, one block for every package
with a rejection that is not suppressed, and the address of the full report.
-/

namespace GuardedInstall.Analysis

open GuardedInstall.Console (Level Print Stream Styled)

/-- The overall status of an evaluation. -/
inductive Status where
  | failure
  | incomplete
  | success
  deriving DecidableEq, Repr

/-- The name of a status. -/
def Status.name : Status → String
  | failure => "FAILURE"
  | incomplete => "INCOMPLETE"
  | success => "SUCCESS"

/-- The level of a headline. -/
def Status.level : Status → Level
  | failure => .error
  | incomplete => .warning
  | success => .info

/-- The status of an evaluation. A failure counts before packages that are
unprocessed. -/
def Evaluation.status (evaluation : Evaluation) : Status :=
  if evaluation.isFailure then .failure
  else if 0 < evaluation.incompleteCount then .incomplete
  else .success

/-- The style of a severity. -/
def Severity.style : Severity → String
  | info => "green"
  | low => "green"
  | medium => "yellow"
  | high => "red"
  | critical => "red"

/-- What a user is shown of an evaluation. -/
structure Report where
  status : Status
  headline : String
  notice : Option String
  blocks : List Styled
  jobLink : Option Json.Value

namespace Report

/-- The notice that packages are unprocessed. -/
def noticeOf (count : Int) : String :=
  let noun := if count = 1 then "package" else "packages"
  s!"The analysis contains {String.ofList (Decimal.integerText count)} unprocessed {noun}, " ++
    "preventing a complete risk analysis. " ++
    "These packages are still being processed and should complete soon. " ++
    "Please wait for up to 30 minutes, then re-run the analysis."

/-- What stands for a domain that is absent. -/
def noDomain : String := "     "

/-- The text of a rejection: its domain in brackets, and its title. An empty domain
counts as absent. -/
def rejectionText (rejection : Rejection) : String :=
  let domain := rejection.domain.filter Json.Value.isGiven
  s!"[{(domain.map Json.Value.display).getD noDomain}] {rejection.title}"

/-- The line of a rejection, in the style of its severity. -/
def rejectionLine (rejection : Rejection) : Styled :=
  Styled.unstyled " " ++ Styled.ofString (rejectionText rejection) rejection.severity.style ++
    Styled.unstyled "\n"

/-- The rejections of a package that are shown. -/
def visible (finding : Finding) : List Rejection :=
  finding.rejections.filter fun rejection => !rejection.suppressed

/-- The first line of a block. -/
def blockTitle (finding : Finding) : Styled :=
  Styled.unstyled s!"[{finding.registry}] {finding.name}@{finding.version}\n"

/-- The block of a package, unless nothing of it is shown. -/
def block? (finding : Finding) : Option Styled :=
  match visible finding with
  | [] => none
  | shown => some (blockTitle finding ++ shown.flatMap rejectionLine)

/-- The report of an evaluation. -/
def ofEvaluation (evaluation : Evaluation) : Report where
  status := evaluation.status
  headline := "Supply Chain Risk Analysis - " ++ evaluation.status.name
  notice :=
    if 0 < evaluation.incompleteCount then some (noticeOf evaluation.incompleteCount) else none
  blocks := evaluation.findings.filterMap block?
  jobLink := evaluation.jobLink

/-- The lines that name the address of the full report. -/
def linkText (link : Json.Value) : String :=
  s!"You can find the interactive report here:\n {link.display}\n"

/-- What is printed of a report, in order. An empty address counts as absent. -/
def prints (report : Report) : List Print :=
  let level := report.status.level
  [Print.say level report.headline, Print.blank level.stream] ++
    (match report.notice with
      | some notice => [Print.say .warning notice, Print.blank .err]
      | none => []) ++
    (match report.blocks with
      | [] => []
      | blocks => blocks.map (Print.styled .err) ++ [Print.blank .err]) ++
    (match report.jobLink.filter Json.Value.isGiven with
      | some link => [Print.line .out (Styled.unstyled (linkText link))]
      | none => [])

end Report

end GuardedInstall.Analysis
