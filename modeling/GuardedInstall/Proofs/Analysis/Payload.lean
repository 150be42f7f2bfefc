import GuardedInstall.Proofs.Analysis.Faults

/-!
# Payloads of evaluations

The service writes an evaluation as an object. Names may come in any order and beside other
ones, parts that are as usual may be left out, what is absent may be null, and the letters
of a severity may be of either case. A payload of an evaluation is read as that evaluation.
A payload with a severity that nobody knows is read as none.
-/

namespace GuardedInstall.Analysis.Payload

open GuardedInstall.Json (Value)
open GuardedInstall.Stepwise
open GuardedInstall.Analysis.Reply (given field field? members)

/-! ## Objects and their parts -/

/-- An object has a field with a value. No name comes twice in it. -/
def Has (name : String) (value object : Value) : Prop :=
  ∃ fields, object = .object fields ∧ (fields.map (·.1)).Nodup ∧ (name, value) ∈ fields

/-- An object has no field of a name. -/
def Lacks (name : String) (object : Value) : Prop :=
  ∃ fields, object = .object fields ∧ name ∉ fields.map (·.1)

/-- A part of an object: a field with a form of the part, or no field at all where the part
is as usual. -/
inductive Part {α : Type} (object : Value) (name : String) (Form : α → Value → Prop)
    (usual : α) : α → Prop
  | written {part : α} {value : Value} (has : Has name value object) (form : Form part value) :
      Part object name Form usual part
  | leftOut (lacks : Lacks name object) : Part object name Form usual usual

/-! ## Forms -/

/-- A text is a word in any mix of letter cases. -/
def IsCased (word text : String) : Prop :=
  List.Forall₂ (fun letter c => c = letter ∨ c = letter.toUpper) word.toList text.toList

def IsSeverity (severity : Severity) (value : Value) : Prop :=
  ∃ text, value = .text text ∧ IsCased severity.name text

def IsFlag (flag : Bool) (value : Value) : Prop :=
  value = .boolean flag

def IsNumber (number : Int) (value : Value) : Prop :=
  value = .integer number

/-- A text that may be absent is not empty. -/
inductive IsOptionalText : Option Value → Value → Prop
  | absent : IsOptionalText none .null
  | text {text : String} (filled : text ≠ "") : IsOptionalText (some (.text text)) (.text text)

def IsList {α : Type} (Form : α → Value → Prop) (items : List α) (value : Value) : Prop :=
  ∃ values, value = .list values ∧ List.Forall₂ Form items values

/-- A source of a rejection: its severity and its domain. -/
structure IsObjectSource (source : Severity × Option Value) (object : Value) : Prop where
  severity : Part object "severity" IsSeverity .info source.1
  domain : Part object "domain" IsOptionalText none source.2

/-- A source of which nothing is to be said may be null. -/
inductive IsSource : Severity × Option Value → Value → Prop
  | absent : IsSource (.info, none) .null
  | object {source : Severity × Option Value} {value : Value}
      (object : IsObjectSource source value) : IsSource source value

structure IsRejection (rejection : Rejection) (object : Value) : Prop where
  title : Has "title" (.text rejection.title) object
  suppressed : Part object "suppressed" IsFlag false rejection.suppressed
  source : Part object "source" IsSource (.info, none) (rejection.severity, rejection.domain)

structure IsFinding (finding : Finding) (object : Value) : Prop where
  registry : Has "registry" (.text finding.registry) object
  name : Has "name" (.text finding.name) object
  version : Has "version" (.text finding.version) object
  rejections : Part object "rejections" (IsList IsRejection) [] finding.rejections

/-- An object is a payload of an evaluation. -/
structure IsPayload (evaluation : Evaluation) (object : Value) : Prop where
  isFailure : Has "is_failure" (.boolean evaluation.isFailure) object
  incompleteCount :
    Part object "incomplete_packages_count" IsNumber 0 evaluation.incompleteCount
  jobLink : Part object "job_link" IsOptionalText none evaluation.jobLink
  findings : Part object "dependencies" (IsList IsFinding) [] evaluation.findings

/-- Somewhere in a payload a rejection has a severity that in lower case is the name of
none. -/
inductive HasUnknownSeverity (payload : Value) : Prop
  | intro {packages rejections : List Value} {package rejection source severity : Value}
      (packed : Has "dependencies" (.list packages) payload) (listed : package ∈ packages)
      (objected : Has "rejections" (.list rejections) package) (among : rejection ∈ rejections)
      (traced : Has "source" source rejection) (graded : Has "severity" severity source)
      (unknown : ∀ known : Severity, Text.lower severity.display.toList ≠ known.name.toList)

/-! ## Reading the parts of an object -/

section

variable {name : String} {object value : Value}

theorem field?_of_has (has : Has name value object) : field? name object = .ok (some value) := by
  obtain ⟨fields, rfl, distinct, present⟩ := has
  rw [field?, Table.find?_of_mem distinct present]

theorem field?_of_lacks (lacks : Lacks name object) : field? name object = .ok none := by
  obtain ⟨fields, rfl, absent⟩ := lacks
  rw [field?, Table.find?_of_not_mem absent]

theorem field_of_has (has : Has name value object) : field name object = .ok value := by
  obtain ⟨fields, rfl, distinct, present⟩ := has
  simp only [field, Table.find?_of_mem distinct present]

theorem Part.exists_fields {α : Type} {Form : α → Value → Prop} {usual part : α}
    (written : Part object name Form usual part) : ∃ fields, object = .object fields := by
  cases written with
  | written has form =>
      obtain ⟨fields, rfl, -⟩ := has
      exact ⟨fields, rfl⟩
  | leftOut lacks =>
      obtain ⟨fields, rfl, -⟩ := lacks
      exact ⟨fields, rfl⟩

/-- A part is read from a form of it, also if it is left out. -/
theorem Part.exists_field? {α : Type} {Form : α → Value → Prop} {usual part : α} {instead : Value}
    (written : Part object name Form usual part) (form : Form usual instead) :
    ∃ found, field? name object = .ok found ∧ Form part (found.getD instead) := by
  cases written with
  | written has form => exact ⟨_, field?_of_has has, form⟩
  | leftOut lacks => exact ⟨_, field?_of_lacks lacks, form⟩

end

/-! ## Severities -/

/-- A letter in lower case, with an upper-case form in ASCII. -/
def IsSmall (letter : Char) : Prop :=
  (letter.toNat < 128 ∧ letter.toLower = letter) ∧
    letter.toUpper.toNat < 128 ∧ letter.toUpper.toLower = letter

instance (letter : Char) : Decidable (IsSmall letter) :=
  inferInstanceAs (Decidable (_ ∧ _))

theorem lowerBetween_ascii {c : Char} (ascii : c.toNat < 128) (before after : List Char) :
    Text.lowerBetween before c after = [c.toLower] := by
  have notSigma : c ≠ 'Σ' := by
    rintro rfl
    exact absurd ascii (by decide)
  have notDotted : c ≠ 'İ' := by
    rintro rfl
    exact absurd ascii (by decide)
  rw [Text.lowerBetween, if_neg notSigma, if_neg notDotted, if_pos ascii]

/-- The lower-case form of a word in any mix of letter cases is the word. -/
theorem lowerAfter_cased {word text : List Char}
    (cased : List.Forall₂ (fun letter c => c = letter ∨ c = letter.toUpper) word text)
    (small : ∀ letter ∈ word, IsSmall letter) (before : List Char) :
    Text.lowerAfter before text = word := by
  induction cased generalizing before with
  | nil => rfl
  | @cons letter c _ rest same _ ih =>
      obtain ⟨⟨ascii, lower⟩, upperAscii, upperLower⟩ := small letter List.mem_cons_self
      have lowered : Text.lowerBetween before c rest = [letter] := by
        rcases same with rfl | rfl
        · rw [lowerBetween_ascii ascii, lower]
        · rw [lowerBetween_ascii upperAscii, upperLower]
      have later := ih fun other among => small other (List.mem_cons_of_mem _ among)
      rw [Text.lowerAfter, lowered, later]
      rfl

theorem isSmall_of_mem_name (severity : Severity) :
    ∀ letter ∈ severity.name.toList, IsSmall letter := by
  have small : severity.name.toList.all (fun letter => decide (IsSmall letter)) = true := by
    cases severity <;> decide
  intro letter among
  exact of_decide_eq_true (List.all_eq_true.mp small letter among)

theorem ofName?_name (severity : Severity) : Severity.ofName? severity.name = some severity := by
  cases severity <;> decide

theorem eq_name_of_ofName? {text : String} {severity : Severity}
    (found : Severity.ofName? text = some severity) : text = severity.name := by
  rw [Severity.ofName?] at found
  have named := List.find?_some found
  exact (of_decide_eq_true named).symm

theorem severity_of_isSeverity {severity : Severity} {value : Value}
    (form : IsSeverity severity value) : Reply.severity value = .ok severity := by
  obtain ⟨text, rfl, cased⟩ := form
  have lowered : Text.lower text.toList = severity.name.toList :=
    lowerAfter_cased cased (isSmall_of_mem_name severity) []
  simp only [Reply.severity, Value.display, lowered, String.ofList_toList, ofName?_name]

/-- What is the name of no severity is read as none. -/
theorem severity_ne_ok {value : Value} (known : Severity)
    (unknown : ∀ known : Severity, Text.lower value.display.toList ≠ known.name.toList) :
    Reply.severity value ≠ .ok known := by
  intro read
  simp only [Reply.severity] at read
  split at read
  · rename_i severity found
    have named := congrArg String.toList (eq_name_of_ofName? found)
    rw [String.toList_ofList] at named
    exact unknown severity named
  · cases read

/-! ## Rejections, findings and evaluations -/

theorem members_of_isList {α : Type} {Form : α → Value → Prop} {items : List α} {value : Value}
    {step : Value → Reply.Decode α} (form : IsList Form items value)
    (reads : ∀ {item value}, Form item value → step value = .ok item) :
    ∃ values, members value = .ok values ∧ values.mapM step = .ok items := by
  obtain ⟨values, rfl, forms⟩ := form
  refine ⟨values, rfl, mapM_eq_ok_iff.mpr ?_⟩
  exact List.Forall₂.flip (forms.imp fun _ _ form => reads form)

theorem isList_nil {α : Type} (Form : α → Value → Prop) : IsList Form [] (.list []) :=
  ⟨[], rfl, .nil⟩

/-- A text that may be absent is given exactly if it is there. -/
theorem given_of_isOptionalText {text found : Option Value}
    (form : IsOptionalText text (found.getD .null)) : given found = text := by
  cases found with
  | none =>
      cases form with
      | absent => rfl
  | some value =>
      rw [Option.getD_some] at form
      cases form with
      | absent => rfl
      | text filled => simp [given, Value.isGiven, Option.filter, filled]

theorem isObjectSource_empty : IsObjectSource (.info, none) (.object []) where
  severity := .leftOut ⟨[], rfl, List.not_mem_nil⟩
  domain := .leftOut ⟨[], rfl, List.not_mem_nil⟩

/-- A source that is not given says as much as an empty one. -/
theorem isObjectSource_of_isSource {source : Severity × Option Value} {found : Option Value}
    (form : IsSource source (found.getD .null)) :
    IsObjectSource source ((given found).getD (.object [])) := by
  generalize held : found.getD .null = value at form
  cases form with
  | absent =>
      cases found with
      | none => exact isObjectSource_empty
      | some value =>
          cases held
          exact isObjectSource_empty
  | object form =>
      obtain ⟨fields, rfl⟩ := form.severity.exists_fields
      cases found with
      | none => cases held
      | some value =>
          cases held
          cases fields with
          | nil => exact form
          | cons first rest => exact form

theorem isSeverity_info : IsSeverity .info (.text "info") :=
  ⟨"info", rfl, List.forall₂_same.mpr fun _ _ => .inl rfl⟩

theorem flag_of_isFlag {flag : Bool} {found : Option Value}
    (form : IsFlag flag (found.getD (.boolean false))) :
    (found.map Value.isGiven).getD false = flag := by
  cases found with
  | none =>
      cases form
      rfl
  | some value =>
      cases form
      rfl

theorem rejection_of_isRejection {rejection : Rejection} {object : Value}
    (form : IsRejection rejection object) : Reply.rejection object = .ok rejection := by
  obtain ⟨source, sourceRead, sourceForm⟩ := form.source.exists_field? .absent
  have traced := isObjectSource_of_isSource sourceForm
  obtain ⟨severity, severityRead, severityForm⟩ := traced.severity.exists_field? isSeverity_info
  obtain ⟨domain, domainRead, domainForm⟩ := traced.domain.exists_field? .absent
  obtain ⟨flag, flagRead, flagForm⟩ :=
    form.suppressed.exists_field? (rfl : IsFlag false (.boolean false))
  simp only [Reply.rejection, sourceRead, ok_bind, field_of_has form.title, flagRead, severityRead,
    severity_of_isSeverity severityForm, domainRead, given_of_isOptionalText domainForm,
    flag_of_isFlag flagForm]
  rfl

theorem finding_of_isFinding {finding : Finding} {object : Value}
    (form : IsFinding finding object) : Reply.finding object = .ok finding := by
  obtain ⟨rejections, read, listed⟩ := form.rejections.exists_field? (isList_nil IsRejection)
  obtain ⟨values, isMembers, decoded⟩ := members_of_isList listed rejection_of_isRejection
  simp only [Reply.finding, field_of_has form.registry, field_of_has form.name,
    field_of_has form.version, ok_bind, read, isMembers, decoded]
  rfl

theorem evaluation_of_isPayload {evaluation : Evaluation} {object : Value}
    (form : IsPayload evaluation object) : Reply.evaluation object = .ok evaluation := by
  obtain ⟨findings, findingsRead, listed⟩ := form.findings.exists_field? (isList_nil IsFinding)
  obtain ⟨values, isMembers, decoded⟩ := members_of_isList listed finding_of_isFinding
  obtain ⟨count, countRead, countForm⟩ :=
    form.incompleteCount.exists_field? (rfl : IsNumber 0 (.integer 0))
  obtain ⟨link, linkRead, linkForm⟩ := form.jobLink.exists_field? .absent
  have counted : Reply.count (count.getD (.integer 0)) = .ok evaluation.incompleteCount := by
    rw [countForm]
    rfl
  simp only [Reply.evaluation, findingsRead, ok_bind, isMembers, decoded, countRead, counted,
    field_of_has form.isFailure, linkRead, given_of_isOptionalText linkForm]
  rfl

/-! ## Unknown severities -/

section

variable {object source severity : Value}

theorem given_of_has {name : String} {value : Value} (has : Has name value object) :
    given (some object) = some object := by
  obtain ⟨fields, rfl, -, present⟩ := has
  cases fields with
  | nil => cases present
  | cons first rest => rfl

theorem rejection_fails (traced : Has "source" source object)
    (graded : Has "severity" severity source)
    (unknown : ∀ known : Severity, Text.lower severity.display.toList ≠ known.name.toList) :
    ¬ Succeeds (Reply.rejection object) := by
  rintro ⟨rejection, read⟩
  simp only [Reply.rejection, field?_of_has traced, ok_bind, given_of_has graded,
    Option.getD_some, field?_of_has graded, bind_eq_ok_iff] at read
  obtain ⟨title, -, suppressed, -, known, named, -⟩ := read
  exact severity_ne_ok known unknown named

theorem finding_fails {rejections : List Value}
    (objected : Has "rejections" (.list rejections) object)
    {rejection : Value} (among : rejection ∈ rejections)
    (fails : ¬ Succeeds (Reply.rejection rejection)) : ¬ Succeeds (Reply.finding object) := by
  rintro ⟨finding, read⟩
  simp only [Reply.finding, field?_of_has objected, ok_bind, Option.getD_some, members,
    bind_eq_ok_iff] at read
  obtain ⟨registry, -, name, -, version, -, decoded, all, -⟩ := read
  exact fails (succeeds_of_mem ⟨decoded, all⟩ among)

/-- What fails without an infinite count is wrong in its shape. -/
theorem exists_shape_of_fails {α : Type} {step : Reply.Decode α}
    (avoids : Avoids .infiniteCount step) (fails : ¬ Succeeds step) :
    ∃ error, step = .error (.shape error) := by
  cases step with
  | ok value => exact absurd ⟨value, rfl⟩ fails
  | error cause =>
      cases cause with
      | shape error => exact ⟨error, rfl⟩
      | infiniteCount => exact absurd rfl avoids

end

/-- The findings are read before all else, so that nothing is read of a payload with an
unknown severity. -/
theorem evaluation_of_unknownSeverity {payload : Value} (unknown : HasUnknownSeverity payload) :
    ∃ error, Reply.evaluation payload = .error (.shape error) := by
  obtain ⟨packed, listed, objected, among, traced, graded, unknown⟩ := unknown
  have failing := finding_fails objected among (rejection_fails traced graded unknown)
  obtain ⟨fields, rfl, distinct, present⟩ := packed
  have fails : ¬ Succeeds (Reply.findingsOf fields) := by
    rw [Reply.findingsOf, Table.find?_of_mem distinct present]
    exact fun all => failing (succeeds_of_mem all listed)
  obtain ⟨error, wrong⟩ := exists_shape_of_fails (Reply.avoids_findingsOf fields) fails
  exact ⟨error, by rw [Reply.evaluation_object, wrong, error_bind]⟩

/-! ## Writing an evaluation in full -/

def ofSource (severity : Severity) (domain : Option Value) : Value :=
  .object [("severity", .text severity.name), ("domain", domain.getD .null)]

def ofRejection (rejection : Rejection) : Value :=
  .object
    [("title", .text rejection.title), ("suppressed", .boolean rejection.suppressed),
      ("source", ofSource rejection.severity rejection.domain)]

def ofFinding (finding : Finding) : Value :=
  .object
    [("registry", .text finding.registry), ("name", .text finding.name),
      ("version", .text finding.version),
      ("rejections", .list (finding.rejections.map ofRejection))]

def ofEvaluation (evaluation : Evaluation) : Value :=
  .object
    [("is_failure", .boolean evaluation.isFailure),
      ("incomplete_packages_count", .integer evaluation.incompleteCount),
      ("job_link", evaluation.jobLink.getD .null),
      ("dependencies", .list (evaluation.findings.map ofFinding))]

/-- What may be absent is a text that is not empty, where it is there. -/
def IsText (text : Option Value) : Prop :=
  ∀ value, text = some value → ∃ letters, value = .text letters ∧ letters ≠ ""

/-- The address of the full report and the domains are texts, where they are there. -/
structure HasTexts (evaluation : Evaluation) : Prop where
  jobLink : IsText evaluation.jobLink
  domains : ∀ finding ∈ evaluation.findings, ∀ rejection ∈ finding.rejections,
    IsText rejection.domain

theorem has_of_mem {name : String} {value : Value} {fields : List (String × Value)}
    (present : (name, value) ∈ fields) (distinct : (fields.map (·.1)).Nodup) :
    Has name value (.object fields) :=
  ⟨fields, rfl, distinct, present⟩

theorem isOptionalText_getD {text : Option Value} (plain : IsText text) :
    IsOptionalText text (text.getD .null) := by
  cases text with
  | none => exact .absent
  | some value =>
      obtain ⟨letters, rfl, filled⟩ := plain value rfl
      exact .text filled

theorem isList_map {α : Type} {Form : α → Value → Prop} {write : α → Value} {items : List α}
    (forms : ∀ item ∈ items, Form item (write item)) :
    IsList Form items (.list (items.map write)) :=
  ⟨_, rfl, by rwa [List.forall₂_map_right_iff, List.forall₂_same]⟩

theorem isSource_ofSource {severity : Severity} {domain : Option Value} (plain : IsText domain) :
    IsSource (severity, domain) (ofSource severity domain) := by
  have cased : IsSeverity severity (.text severity.name) :=
    ⟨_, rfl, List.forall₂_same.mpr fun _ _ => .inl rfl⟩
  refine .object ⟨.written (has_of_mem (by simp) (by simp)) cased, ?_⟩
  exact .written (has_of_mem (by simp) (by simp)) (isOptionalText_getD plain)

theorem isRejection_ofRejection {rejection : Rejection} (plain : IsText rejection.domain) :
    IsRejection rejection (ofRejection rejection) where
  title := has_of_mem (by simp) (by simp)
  suppressed := .written (has_of_mem (by simp) (by simp)) rfl
  source := .written (has_of_mem (by simp) (by simp)) (isSource_ofSource plain)

theorem isFinding_ofFinding {finding : Finding}
    (plain : ∀ rejection ∈ finding.rejections, IsText rejection.domain) :
    IsFinding finding (ofFinding finding) where
  registry := has_of_mem (by simp) (by simp)
  name := has_of_mem (by simp) (by simp)
  version := has_of_mem (by simp) (by simp)
  rejections := .written (has_of_mem (by simp) (by simp))
    (isList_map fun rejection among => isRejection_ofRejection (plain rejection among))

/-- Every evaluation has a payload. -/
theorem isPayload_ofEvaluation {evaluation : Evaluation} (plain : HasTexts evaluation) :
    IsPayload evaluation (ofEvaluation evaluation) where
  isFailure := has_of_mem (by simp) (by simp)
  incompleteCount := .written (has_of_mem (by simp) (by simp)) rfl
  jobLink := .written (has_of_mem (by simp) (by simp)) (isOptionalText_getD plain.jobLink)
  findings := .written (has_of_mem (by simp) (by simp))
    (isList_map fun finding among => isFinding_ofFinding (plain.domains finding among))

/-! ## Reading payloads -/

/-- Every evaluation can be written, and is read from whatever was written of it; but nothing
is read where anywhere a severity is unknown. -/
theorem readsPayloads :
    (∀ evaluation, HasTexts evaluation → IsPayload evaluation (ofEvaluation evaluation)) ∧
      (∀ evaluation payload, IsPayload evaluation payload →
        Reply.evaluation payload = .ok evaluation) ∧
      ∀ payload, HasUnknownSeverity payload →
        ∃ error, Reply.evaluation payload = .error (.shape error) :=
  ⟨fun _ plain => isPayload_ofEvaluation plain, fun _ _ form => evaluation_of_isPayload form,
    fun _ unknown => evaluation_of_unknownSeverity unknown⟩

def lookalike : Rejection := ⟨"looks like another", true, .high, some (.text "naming")⟩

def remark : Rejection := ⟨"a remark", false, .info, none⟩

/-- A package with a suppressed rejection and one of which little is said, and a package
without any. -/
def twoPackages : Evaluation where
  isFailure := true
  incompleteCount := 0
  jobLink := none
  findings :=
    [⟨"npm", "left-pad", "1.3.0", [lookalike, remark]⟩, ⟨"npm", "right-pad", "2.0.0", []⟩]

/-- A source that gives its severity in letters. -/
def spareSource (letters : String) : Value :=
  .object [("domain", .text "naming"), ("severity", .text letters)]

/-- A rejection in full, and one with its title only. -/
def spareRejections (letters : String) : List Value :=
  [.object
    [("source", spareSource letters), ("suppressed", .boolean true),
      ("title", .text "looks like another")],
  .object [("title", .text "a remark")]]

def sparePackages (letters : String) : List Value :=
  [.object
    [("rejections", .list (spareRejections letters)), ("version", .text "1.3.0"),
      ("name", .text "left-pad"), ("registry", .text "npm")],
  .object [("registry", .text "npm"), ("name", .text "right-pad"), ("version", .text "2.0.0")]]

/-- The two packages with most parts left out, among names that nobody reads. -/
def sparePayload (letters : String) : Value :=
  .object
    [("job_link", .null), ("request", .integer 7),
      ("dependencies", .list (sparePackages letters)), ("is_failure", .boolean true)]

theorem isPayload_sparePayload : IsPayload twoPackages (sparePayload "HiGh") := by
  have cased : IsCased "high" "HiGh" :=
    .cons (.inr (by decide)) (.cons (.inl (by decide)) (.cons (.inr (by decide))
      (.cons (.inl (by decide)) .nil)))
  have traced : IsObjectSource (.high, some (.text "naming")) (spareSource "HiGh") := by
    refine ⟨.written (has_of_mem (by simp) (by simp)) ⟨_, rfl, cased⟩, ?_⟩
    exact .written (has_of_mem (by simp) (by simp)) (.text (by decide))
  have rejected : IsList IsRejection [lookalike, remark] (.list (spareRejections "HiGh")) := by
    refine ⟨_, rfl, .cons ⟨?_, ?_, ?_⟩ (.cons ⟨?_, ?_, ?_⟩ .nil)⟩
    · exact has_of_mem (by simp [lookalike]) (by simp)
    · exact .written (has_of_mem (by simp) (by simp)) (rfl : IsFlag true (.boolean true))
    · exact .written (has_of_mem (by simp) (by simp)) (.object traced)
    · exact has_of_mem (by simp [remark]) (by simp)
    · exact .leftOut ⟨_, rfl, by simp⟩
    · exact .leftOut ⟨_, rfl, by simp⟩
  have packed : IsList IsFinding twoPackages.findings (.list (sparePackages "HiGh")) := by
    refine ⟨_, rfl, .cons ⟨?_, ?_, ?_, ?_⟩ (.cons ⟨?_, ?_, ?_, ?_⟩ .nil)⟩
    · exact has_of_mem (by simp) (by simp)
    · exact has_of_mem (by simp) (by simp)
    · exact has_of_mem (by simp) (by simp)
    · exact .written (has_of_mem (by simp) (by simp)) rejected
    · exact has_of_mem (by simp) (by simp)
    · exact has_of_mem (by simp) (by simp)
    · exact has_of_mem (by simp) (by simp)
    · exact .leftOut ⟨_, rfl, by simp⟩
  constructor
  · exact has_of_mem (by simp [twoPackages]) (by simp)
  · exact .leftOut ⟨_, rfl, by simp⟩
  · exact .written (has_of_mem (by simp) (by simp)) .absent
  · exact .written (has_of_mem (by simp) (by simp)) packed

theorem hasUnknownSeverity_sparePayload : HasUnknownSeverity (sparePayload "dire") := by
  have packed : Has "dependencies" (.list (sparePackages "dire")) (sparePayload "dire") :=
    has_of_mem (by simp) (by simp)
  refine .intro packed List.mem_cons_self (has_of_mem List.mem_cons_self (by simp))
    List.mem_cons_self (has_of_mem List.mem_cons_self (by simp))
    (has_of_mem (List.mem_cons_of_mem _ List.mem_cons_self) (by simp)) ?_
  intro known
  cases known <;> decide

theorem readsPayloads_sparePayload :
    (HasTexts twoPackages ∧ IsPayload twoPackages (ofEvaluation twoPackages)) ∧
      (IsPayload twoPackages (sparePayload "HiGh") ∧
        Reply.evaluation (sparePayload "HiGh") = .ok twoPackages) ∧
      HasUnknownSeverity (sparePayload "dire") ∧
        ∃ error, Reply.evaluation (sparePayload "dire") = .error (.shape error) := by
  have plain : HasTexts twoPackages := by
    constructor
    · rintro value ⟨⟩
    · simp [twoPackages, lookalike, remark, IsText]
  obtain ⟨written, read, refused⟩ := readsPayloads
  exact ⟨⟨plain, written _ plain⟩,
    ⟨isPayload_sparePayload, read _ _ isPayload_sparePayload⟩,
    hasUnknownSeverity_sparePayload, refused _ hasUnknownSeverity_sparePayload⟩

end GuardedInstall.Analysis.Payload
