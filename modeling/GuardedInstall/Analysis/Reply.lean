import GuardedInstall.Analysis.Evaluation
import GuardedInstall.Analysis.Integer
import GuardedInstall.Text.LowerCase

/-!
# Decoding the service's reply

A reply is an object with the fields of an evaluation. Fields that may be left
out have defaults; texts may come as any value and are shown as texts. What
does not have the expected shape is reported with the first thing that is
wrong, in the order in which the parts are looked at.
-/

namespace GuardedInstall.Analysis

open GuardedInstall.Json (Value)

/-- What is wrong with the shape of a reply. -/
inductive ReplyError where
  | noFields (kind : String)
  | missing (field : String)
  | notIndexable (kind : String)
  | textIndexed
  | listIndexed
  | notIterable (kind : String)
  | notANumber (kind : String)
  | undefinedNumber
  | integer (text : String) (error : Integer.Error)
  | severity (text : String)
  deriving DecidableEq, Repr

/-- The message for the shape of a reply. -/
def ReplyError.message : ReplyError → String
  | noFields kind => s!"'{kind}' object has no attribute 'get'"
  | missing field => Text.Quoted.literal field
  | notIndexable kind => s!"'{kind}' object is not subscriptable"
  | textIndexed => "string indices must be integers, not 'str'"
  | listIndexed => "list indices must be integers or slices, not str"
  | notIterable kind => s!"'{kind}' object is not iterable"
  | notANumber kind =>
      s!"int() argument must be a string, a bytes-like object or a real number, not '{kind}'"
  | undefinedNumber => "cannot convert float NaN to integer"
  | integer text error => Integer.message text error
  | severity text => s!"{Text.Quoted.literal text} is not a valid Severity"

/-- Why a reply gives no evaluation: its shape is wrong, or its count is
infinite. -/
inductive DecodeFailure where
  | shape (error : ReplyError)
  | infiniteCount
  deriving DecidableEq, Repr

/-- The message for an infinite count. -/
def infiniteCountMessage : String := "cannot convert float infinity to integer"

namespace Reply

/-- A step of the decoding. -/
abbrev Decode (α : Type) := Except DecodeFailure α

/-- Report what is wrong. -/
def wrong {α : Type} (error : ReplyError) : Decode α :=
  .error (.shape error)

/-- The value of a field that may be left out. -/
def field? (name : String) : Value → Decode (Option Value)
  | .object fields => .ok (Table.find? name fields)
  | other => wrong (.noFields other.kind)

/-- The value of a field that must be there. -/
def field (name : String) : Value → Decode Value
  | .object fields =>
      match Table.find? name fields with
      | some value => .ok value
      | none => wrong (.missing name)
  | .text _ => wrong .textIndexed
  | .list _ => wrong .listIndexed
  | other => wrong (.notIndexable other.kind)

/-- The members of a value: the items of a list, the names of an object's
fields, the characters of a text. -/
def members : Value → Decode (List Value)
  | .list items => .ok items
  | .object fields => .ok (fields.map fun field => .text field.1)
  | .text value => .ok (value.toList.map fun c => .text (String.singleton c))
  | other => wrong (.notIterable other.kind)

/-- The value of a field, where it is given. -/
def given (value : Option Value) : Option Value :=
  value.filter Value.isGiven

/-- The severity of a value, in any mix of letter cases. -/
def severity (value : Value) : Decode Severity :=
  let text := String.ofList (Text.lower value.display.toList)
  match Severity.ofName? text with
  | some severity => .ok severity
  | none => wrong (.severity text)

/-- A rejection. -/
def rejection (value : Value) : Decode Rejection := do
  let source := (given (← field? "source" value)).getD (.object [])
  let title := (← field "title" value).display
  let suppressed := ((← field? "suppressed" value).map Value.isGiven).getD false
  let severity ← severity ((← field? "severity" source).getD (.text "info"))
  let domain := given (← field? "domain" source)
  pure { title, suppressed, severity, domain }

/-- The findings about a package. -/
def finding (value : Value) : Decode Finding := do
  let registry := (← field "registry" value).display
  let name := (← field "name" value).display
  let version := (← field "version" value).display
  let rejections ← members ((← field? "rejections" value).getD (.list []))
  pure { registry, name, version, rejections := ← rejections.mapM rejection }

/-- The whole number that a value stands for. -/
def count : Value → Decode Int
  | .integer value => .ok value
  | .boolean value => .ok (if value then 1 else 0)
  | .real value =>
      if value.isNaN then wrong .undefinedNumber
      else if value.isInf then .error .infiniteCount
      else .ok (Decimal.wholePart value)
  | .text value =>
      match Integer.ofText value with
      | .ok count => .ok count
      | .error error => wrong (.integer value error)
  | other => wrong (.notANumber other.kind)

/-- The evaluation that a reply holds. -/
def evaluation (value : Value) : Decode Evaluation := do
  let packages ← members ((← field? "dependencies" value).getD (.list []))
  let findings ← packages.mapM finding
  let incompleteCount ← count ((← field? "incomplete_packages_count" value).getD (.integer 0))
  let isFailure := (← field "is_failure" value).isGiven
  let jobLink := given (← field? "job_link" value)
  pure { isFailure, incompleteCount, jobLink, findings }

end Reply

end GuardedInstall.Analysis
