import GuardedInstall.Analysis.Report
import Mathlib.Data.List.Forall2

/-!
# What a report shows of the findings

A report shows the rejections that are not suppressed, package by package, and nothing else
of the findings. Each of them has one span, over its domain and its title. Characters that
are dropped from the text count in no span, so that every span lies where its rejection
stands in the text that is left.
-/

namespace GuardedInstall.Analysis

open GuardedInstall.Console (Span Styled isKept)

/-- A finding without its suppressed rejections. -/
def Finding.pruned (finding : Finding) : Finding :=
  { finding with rejections := finding.rejections.filter fun rejection => !rejection.suppressed }

/-- An evaluation without its suppressed rejections, and then without the findings that
have no rejection. -/
def Evaluation.pruned (evaluation : Evaluation) : Evaluation :=
  { evaluation with
    findings := (evaluation.findings.map Finding.pruned).filter fun finding =>
      !finding.rejections.isEmpty }

namespace Report

/-- The characters of a text that are kept. -/
def kept (text : String) : List Char :=
  text.toList.filter isKept

/-- The package of a finding on a line of its own. -/
def packageText (finding : Finding) : String :=
  "[" ++ finding.registry ++ "] " ++ finding.name ++ "@" ++ finding.version ++ "\n"

/-- The text for a domain: five blanks where there is none. -/
def domainText (domain : Option Json.Value) : String :=
  match domain with
  | some value => if value.isGiven then value.display else "     "
  | none => "     "

/-- The domain of a rejection in brackets, and its title. -/
def wording (rejection : Rejection) : String :=
  "[" ++ domainText rejection.domain ++ "] " ++ rejection.title

/-- The lines of rejections, each behind a blank. -/
def lines (rejections : List Rejection) : List Char :=
  rejections.flatMap fun rejection => ' ' :: (kept (wording rejection) ++ ['\n'])

/-- What stands in front of a rejection in the block of its finding, given the rejections
before it. -/
def front (finding : Finding) (before : List Rejection) : List Char :=
  kept (packageText finding) ++ lines before ++ [' ']

/-- A block shows a finding: the package and all of the rejections, in order, with one span
for each rejection over its words. -/
structure Shows (finding : Finding) (block : Styled) : Prop where
  plain : block.plain = kept (packageText finding) ++ lines finding.rejections
  count : block.spans.length = finding.rejections.length
  covers : ∀ before rejection after, finding.rejections = before ++ rejection :: after →
    block.plain = front finding before ++ kept (wording rejection) ++ '\n' :: lines after ∧
      block.spans[before.length]? = some
        ⟨(front finding before).length,
          (front finding before ++ kept (wording rejection)).length, rejection.severity.style⟩
  apart : block.spans.Pairwise fun first second => first.stop ≤ second.start

/-- The block of a finding with all of its rejections. -/
def block (finding : Finding) : Styled :=
  blockTitle finding ++ finding.rejections.flatMap rejectionLine

theorem rejectionText_eq (rejection : Rejection) : rejectionText rejection = wording rejection := by
  have shown : ((rejection.domain.filter Json.Value.isGiven).map Json.Value.display).getD noDomain =
      domainText rejection.domain := by
    cases rejection.domain with
    | none => rfl
    | some value =>
        cases given : value.isGiven <;> simp [domainText, noDomain, Option.filter, given]
  rw [wording, ← shown]
  rfl

theorem kept_wording_ne_nil (rejection : Rejection) : kept (wording rejection) ≠ [] := by
  simp [kept, wording, isKept]

theorem style_ne_empty (severity : Severity) : severity.style ≠ "" := by
  cases severity <;> decide

theorem blockTitle_eq (finding : Finding) :
    blockTitle finding = Styled.unstyled (packageText finding) :=
  rfl

theorem plain_blockTitle (finding : Finding) :
    (blockTitle finding).plain = kept (packageText finding) := by
  simp [blockTitle_eq, Styled.unstyled, Styled.ofString, kept]

theorem plain_rejectionLine (rejection : Rejection) :
    (rejectionLine rejection).plain = ' ' :: (kept (wording rejection) ++ ['\n']) := by
  simp [rejectionLine, rejectionText_eq, Styled.unstyled, Styled.ofString, kept, isKept]

theorem plain_rejectionLines (rejections : List Rejection) :
    Styled.plain (rejections.flatMap rejectionLine) = lines rejections := by
  induction rejections with
  | nil => rfl
  | cons rejection rest ih =>
      rw [List.flatMap_cons, Styled.plain_append, plain_rejectionLine, ih]
      rfl

theorem plain_block (finding : Finding) :
    (block finding).plain = kept (packageText finding) ++ lines finding.rejections := by
  rw [block, Styled.plain_append, plain_blockTitle, plain_rejectionLines]

/-- A rejection has one span, behind the blank in front of it. -/
theorem spansFrom_rejectionLine (offset : Nat) (rejection : Rejection) :
    Styled.spansFrom offset (rejectionLine rejection) =
      [⟨offset + 1, offset + 1 + (kept (wording rejection)).length,
        rejection.severity.style⟩] := by
  have worded := kept_wording_ne_nil rejection
  have styled := style_ne_empty rejection.severity
  simp only [kept] at worded
  simp [rejectionLine, rejectionText_eq, Styled.unstyled, Styled.ofString, Styled.spansFrom, kept,
    worded, styled, isKept]

theorem length_spansFrom_rejectionLines (offset : Nat) (rejections : List Rejection) :
    (Styled.spansFrom offset (rejections.flatMap rejectionLine)).length = rejections.length := by
  induction rejections generalizing offset with
  | nil => rfl
  | cons rejection rest ih =>
      rw [List.flatMap_cons, Styled.spansFrom_append, spansFrom_rejectionLine, List.length_append,
        ih]
      exact Nat.add_comm 1 _

/-- The package in front of the rejections has no span. -/
theorem spans_block (finding : Finding) :
    (block finding).spans =
      Styled.spansFrom (kept (packageText finding)).length
        (finding.rejections.flatMap rejectionLine) := by
  have untitled : Styled.spansFrom 0 (blockTitle finding) = [] := by
    simp [blockTitle_eq, Styled.unstyled, Styled.ofString, Styled.spansFrom]
  rw [Styled.spans, block, Styled.spansFrom_append, untitled, plain_blockTitle, List.nil_append,
    Nat.zero_add]

theorem lines_append (first second : List Rejection) :
    lines (first ++ second) = lines first ++ lines second :=
  List.flatMap_append

/-- A block shows what it was made of. -/
theorem shows_block (finding : Finding) : Shows finding (block finding) where
  plain := plain_block finding
  count := by rw [spans_block, length_spansFrom_rejectionLines]
  covers := by
    intro before rejection after split
    constructor
    · rw [plain_block, split, lines_append]
      simp [front, lines]
    · have earlier := length_spansFrom_rejectionLines (kept (packageText finding)).length before
      rw [spans_block, split, List.flatMap_append, List.flatMap_cons, Styled.spansFrom_append,
        Styled.spansFrom_append, spansFrom_rejectionLine, plain_rejectionLines,
        List.getElem?_append_right (Nat.le_of_eq earlier), earlier, Nat.sub_self]
      simp only [front, List.length_append, List.length_cons, List.length_nil, Nat.zero_add]
      rfl
  apart := (Styled.spansFrom_pairwise 0 (block finding)).1

/-- A finding is shown by the block of what is left of it, unless nothing is left. -/
theorem block?_eq (finding : Finding) :
    block? finding =
      if finding.pruned.rejections.isEmpty then none else some (block finding.pruned) := by
  have left : visible finding = finding.pruned.rejections := rfl
  rw [block?, left, block]
  cases finding.pruned.rejections with
  | nil => rfl
  | cons rejection rest => rfl

theorem pruned_pruned (finding : Finding) : finding.pruned.pruned = finding.pruned := by
  simp [Finding.pruned]

/-- Pruning takes nothing away that is shown. -/
theorem block?_pruned (finding : Finding) : block? finding.pruned = block? finding := by
  rw [block?_eq, block?_eq, pruned_pruned]

theorem blocks_pruned (evaluation : Evaluation) :
    (ofEvaluation evaluation.pruned).blocks = (ofEvaluation evaluation).blocks := by
  show List.filterMap block? (List.filter _ _) = evaluation.findings.filterMap block?
  rw [List.filterMap_filter, List.filterMap_map]
  apply List.filterMap_congr
  intro finding _
  rw [Function.comp_apply, block?_pruned, block?_eq]
  cases finding.pruned.rejections.isEmpty <;> rfl

/-- There is one block for each finding that is left. -/
theorem blocks_eq (evaluation : Evaluation) :
    (ofEvaluation evaluation).blocks = evaluation.pruned.findings.map block := by
  show evaluation.findings.filterMap block? = List.map block (List.filter _ _)
  rw [← List.filterMap_eq_map, List.filterMap_filter, List.filterMap_map]
  apply List.filterMap_congr
  intro finding _
  rw [Function.comp_apply, block?_eq]
  cases finding.pruned.rejections.isEmpty <;> rfl

theorem ofEvaluation_pruned (evaluation : Evaluation) :
    ofEvaluation evaluation.pruned = ofEvaluation evaluation := by
  have blocks := blocks_pruned evaluation
  simp only [ofEvaluation] at blocks ⊢
  rw [blocks]
  rfl

/-- A report shows what is left of an evaluation without suppressed rejections and without
packages that have no other ones: one block for each such package, in order. -/
theorem showsVisible (evaluation : Evaluation) :
    ofEvaluation evaluation = ofEvaluation evaluation.pruned ∧
      List.Forall₂ Shows evaluation.pruned.findings (ofEvaluation evaluation).blocks ∧
      ∀ severity : Severity,
        (severity.style = "green" ↔ severity = .info ∨ severity = .low) ∧
          (severity.style = "yellow" ↔ severity = .medium) ∧
          (severity.style = "red" ↔ severity = .high ∨ severity = .critical) := by
  refine ⟨(ofEvaluation_pruned evaluation).symm, ?_, ?_⟩
  · rw [blocks_eq, List.forall₂_map_right_iff, List.forall₂_same]
    intro finding _
    exact shows_block finding
  · intro severity
    cases severity <;> decide

end Report

end GuardedInstall.Analysis
