import GuardedInstall.Json.Value
import GuardedInstall.Toml.Value

/-!
# Settings of a configuration document

A configuration document is written in one of two formats. Both give a table
of settings, which are looked up by name and checked for the kind that the
configuration wants.
-/

namespace GuardedInstall.Config

/-- A setting of a configuration document. -/
inductive Setting where
  | null
  | flag (value : Bool)
  | integer (value : Int)
  | real (value : Float)
  | text (value : String)
  | moment
  | list (items : List Setting)
  | table (entries : List (String × Setting))
  deriving Inhabited

/-- A table of settings. -/
abbrev Table := List (String × Setting)

namespace Setting

mutual

/-- The setting that a decoded value is. -/
def ofJson : Json.Value → Setting
  | .null => .null
  | .boolean value => .flag value
  | .integer value => .integer value
  | .real value => .real value
  | .text value => .text value
  | .list items => .list (ofJsonItems items)
  | .object fields => .table (ofJsonFields fields)

/-- The settings of a list of values. -/
def ofJsonItems : List Json.Value → List Setting
  | [] => []
  | item :: rest => ofJson item :: ofJsonItems rest

/-- The settings of the fields of an object. -/
def ofJsonFields : List (String × Json.Value) → List (String × Setting)
  | [] => []
  | (name, item) :: rest => (name, ofJson item) :: ofJsonFields rest

end

mutual

/-- The setting that a value of a configuration file is. -/
def ofToml : Toml.Value → Setting
  | .text value => .text value
  | .integer value => .integer value
  | .real value => .real value
  | .boolean value => .flag value
  | .moment => .moment
  | .array items => .list (ofTomlItems items)
  | .table entries => .table (ofTomlEntries entries)

/-- The settings of the items of an array. -/
def ofTomlItems : List Toml.Value → List Setting
  | [] => []
  | item :: rest => ofToml item :: ofTomlItems rest

/-- The settings of the entries of a table. -/
def ofTomlEntries : List (String × Toml.Value) → List (String × Setting)
  | [] => []
  | (name, item) :: rest => (name, ofToml item) :: ofTomlEntries rest

end

/-- The text of a setting that is one. -/
def text? : Setting → Option String
  | text value => some value
  | _ => none

end Setting

/-- Why a document is no configuration. -/
inductive Invalid where
  | notATable (name : String)
  | notAText (name : String)
  | notATextList (name : String)
  | notPositive (name : String)
  | notAFlag (name : String)
  deriving DecidableEq, Repr

/-- The message for an invalid setting. -/
def Invalid.message : Invalid → String
  | notATable name => s!"`{name}` must be a table"
  | notAText name => s!"`{name}` must be a non-empty string"
  | notATextList name => s!"`{name}` must be a list of strings"
  | notPositive name => s!"`{name}` must be a positive number"
  | notAFlag name => s!"`{name}` must be a boolean"

/-- Why a document gives no configuration: a setting is invalid, or a number is
too large for the arithmetic. -/
inductive Unusable where
  | invalid (reason : Invalid)
  | numberTooLarge
  deriving DecidableEq, Repr

namespace Table

/-- The table at a name; an empty one if there is none. -/
def tableAt (settings : Table) (name : String) : Except Unusable Table :=
  match GuardedInstall.Table.find? name settings with
  | none => .ok []
  | some (.table entries) => .ok entries
  | some _ => .error (.invalid (.notATable name))

/-- The text at a name, which must not be empty. -/
def textAt (settings : Table) (name default : String) : Except Unusable String :=
  match GuardedInstall.Table.find? name settings with
  | none => if default = "" then .error (.invalid (.notAText name)) else .ok default
  | some (.text value) =>
      if value = "" then .error (.invalid (.notAText name)) else .ok value
  | some _ => .error (.invalid (.notAText name))

/-- The text at a name, if there is one. -/
def optionalTextAt (settings : Table) (name : String) : Except Unusable (Option String) :=
  match GuardedInstall.Table.find? name settings with
  | none => .ok none
  | some .null => .ok none
  | some _ => (settings.textAt name "").map some

/-- The list of texts at a name. -/
def textListAt (settings : Table) (name : String) (default : List String) :
    Except Unusable (List String) :=
  match GuardedInstall.Table.find? name settings with
  | none => .ok default
  | some (.list items) =>
      match items.mapM Setting.text? with
      | some texts => .ok texts
      | none => .error (.invalid (.notATextList name))
  | some _ => .error (.invalid (.notATextList name))

/-- The positive number at a name. A number that is not comparable counts as
positive. -/
def positiveAt (settings : Table) (name : String) (default : Float) : Except Unusable Float :=
  match GuardedInstall.Table.find? name settings with
  | none => .ok default
  | some (.integer value) =>
      if value ≤ 0 then .error (.invalid (.notPositive name))
      else
        match Decimal.realOfInteger? value with
        | some real => .ok real
        | none => .error .numberTooLarge
  | some (.real value) =>
      if value ≤ 0 then .error (.invalid (.notPositive name)) else .ok value
  | some _ => .error (.invalid (.notPositive name))

/-- The flag at a name. -/
def flagAt (settings : Table) (name : String) (default : Bool) : Except Unusable Bool :=
  match GuardedInstall.Table.find? name settings with
  | none => .ok default
  | some (.flag value) => .ok value
  | some _ => .error (.invalid (.notAFlag name))

end Table

end GuardedInstall.Config
