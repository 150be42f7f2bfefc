import GuardedInstall.Decimal.Notation
import GuardedInstall.Table
import GuardedInstall.Text.Quoted

/-!
# Values of the data format

The values that a document of the analysis service can hold. Integers and
other numbers are kept apart; an object keeps its fields in the order in which
their names first came. The module also says how a value is shown inside a
message.
-/

namespace GuardedInstall.Json

/-- A decoded value. -/
inductive Value where
  | null
  | boolean (value : Bool)
  | integer (value : Int)
  | real (value : Float)
  | text (value : String)
  | list (items : List Value)
  | object (fields : List (String × Value))
  deriving Inhabited

namespace Value

/-- The name of the kind of a value, as messages give it. -/
def kind : Value → String
  | null => "NoneType"
  | boolean _ => "bool"
  | integer _ => "int"
  | real _ => "float"
  | text _ => "str"
  | list _ => "list"
  | object _ => "dict"

/-- Whether a value counts as given: neither null, nor false, nor zero, nor
empty. -/
def isGiven : Value → Bool
  | null => false
  | boolean value => value
  | integer value => value != 0
  | real value => value != 0
  | text value => value != ""
  | list items => !items.isEmpty
  | object fields => !fields.isEmpty

mutual

/-- The literal form of a value: texts quoted, lists and objects in brackets. -/
def literal : Value → List Char
  | null => "None".toList
  | boolean value => (if value then "True" else "False").toList
  | integer value => Decimal.integerText value
  | real value => Decimal.realText value
  | text value => Text.Quoted.encode value.toList
  | list items => '[' :: literals items ++ [']']
  | object fields => '\x7b' :: fieldLiterals fields ++ ['\x7d']

/-- The literal forms of the items of a list. -/
def literals : List Value → List Char
  | [] => []
  | [item] => item.literal
  | item :: rest => item.literal ++ ',' :: ' ' :: literals rest

/-- The literal forms of the fields of an object. -/
def fieldLiterals : List (String × Value) → List Char
  | [] => []
  | [(name, item)] => Text.Quoted.encode name.toList ++ ':' :: ' ' :: item.literal
  | (name, item) :: rest =>
      Text.Quoted.encode name.toList ++ ':' :: ' ' :: item.literal ++
        ',' :: ' ' :: fieldLiterals rest

end

/-- A value as part of a text: a text stands for itself, any other value is
shown in its literal form. -/
def display : Value → String
  | text value => value
  | other => String.ofList other.literal

end Value

end GuardedInstall.Json
