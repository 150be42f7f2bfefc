import GuardedInstall.Table

/-!
# Values of configuration files

A configuration file is a table of values by name. A value may be a table
again. Dates and times are recognised and carry nothing, since no setting has
one as its value.
-/

namespace GuardedInstall.Toml

/-- A value of a configuration file. -/
inductive Value where
  | text (value : String)
  | integer (value : Int)
  | real (value : Float)
  | boolean (value : Bool)
  | moment
  | array (items : List Value)
  | table (entries : List (String × Value))
  deriving Inhabited

/-- The entries of a table. -/
abbrev Entries := List (String × Value)

namespace Value

/-- Whether a value holds other values. -/
def isContainer : Value → Bool
  | array _ => true
  | table _ => true
  | _ => false

end Value

namespace Entries

/-- Change the table at a path of names, making tables on the way. Through an
array of tables the path leads into its last table, where that is allowed. -/
def modifyAt (throughArrays : Bool) :
    List String → (Entries → Option Entries) → Entries → Option Entries
  | [], change, entries => change entries
  | name :: names, change, entries =>
      match Table.find? name entries with
      | none =>
          (modifyAt throughArrays names change []).map fun inner =>
            Table.put name (.table inner) entries
      | some (.table inner) =>
          (modifyAt throughArrays names change inner).map fun inner =>
            Table.put name (.table inner) entries
      | some (.array items) =>
          match throughArrays, items.getLast? with
          | true, some (.table inner) =>
              (modifyAt throughArrays names change inner).map fun inner =>
                Table.put name (.array (items.dropLast ++ [.table inner])) entries
          | _, _ => none
      | some _ => none

/-- Write a value to a name that must be new. -/
def addNew (name : String) (value : Value) (entries : Entries) : Option Entries :=
  match Table.find? name entries with
  | none => some (Table.put name value entries)
  | some _ => none

/-- Append an empty table to the array at a name, making the array if need
be. -/
def appendTable (name : String) (entries : Entries) : Option Entries :=
  match Table.find? name entries with
  | none => some (Table.put name (.array [.table []]) entries)
  | some (.array items) => some (Table.put name (.array (items ++ [.table []])) entries)
  | some _ => none

end Entries

end GuardedInstall.Toml
