import GuardedInstall.Json.Value
import GuardedInstall.Text.Half

/-!
# Writing the data format

Documents are written in ASCII: every other character is escaped by its code
units. The indented form puts each item and each field on a line of its own,
two more blanks deep than its bracket, and sorts the fields by name.
-/

namespace GuardedInstall.Json

/-- One code unit as an escape. -/
def unitEscape (unit : Nat) : List Char :=
  '\\' :: 'u' :: Text.hexFixed 4 unit

/-- The written form of one character of a text. -/
def escapeChar (c : Char) : List Char :=
  match c with
  | '"' => ['\\', '"']
  | '\\' => ['\\', '\\']
  | '\n' => ['\\', 'n']
  | '\r' => ['\\', 'r']
  | '\t' => ['\\', 't']
  | '\x08' => ['\\', 'b']
  | '\x0c' => ['\\', 'f']
  | c =>
      if 0x20 ≤ c.toNat && c.toNat < 0x7F then [c]
      else if Text.Half.code c < 0x10000 then unitEscape (Text.Half.code c)
      else
        let offset := c.toNat - 0x10000
        unitEscape (0xD800 + offset / 0x400) ++ unitEscape (0xDC00 + offset % 0x400)

/-- A text between double quotes. -/
def quoted (text : String) : List Char :=
  '"' :: text.toList.flatMap escapeChar ++ ['"']

/-- The text of a number that is not an integer. -/
def realDocument (x : Float) : List Char :=
  if x.isNaN then "NaN".toList
  else if x.isInf then (if x < 0 then "-Infinity" else "Infinity").toList
  else Decimal.realText x

mutual

/-- A value on one line. -/
def compact : Value → List Char
  | .null => "null".toList
  | .boolean value => (if value then "true" else "false").toList
  | .integer value => Decimal.integerText value
  | .real value => realDocument value
  | .text value => quoted value
  | .list items => '[' :: compactItems items ++ [']']
  | .object fields => '\x7b' :: compactFields fields ++ ['\x7d']

/-- The items of a list on one line. -/
def compactItems : List Value → List Char
  | [] => []
  | [item] => compact item
  | item :: rest => compact item ++ ',' :: compactItems rest

/-- The fields of an object on one line. -/
def compactFields : List (String × Value) → List Char
  | [] => []
  | [(name, item)] => quoted name ++ ':' :: compact item
  | (name, item) :: rest => quoted name ++ ':' :: compact item ++ ',' :: compactFields rest

end

/-- Insert a field before the first one with a greater name. -/
def insertField (field : String × Value) : List (String × Value) → List (String × Value)
  | [] => [field]
  | next :: rest =>
      if field.1 < next.1 then field :: next :: rest else next :: insertField field rest

mutual

/-- The value with the fields of every object in the order of their names. -/
def sorted : Value → Value
  | .list items => .list (sortedItems items)
  | .object fields => .object (sortedFields fields)
  | other => other

/-- The items of a list, each sorted. -/
def sortedItems : List Value → List Value
  | [] => []
  | item :: rest => sorted item :: sortedItems rest

/-- The fields of an object in the order of their names, each sorted. -/
def sortedFields : List (String × Value) → List (String × Value)
  | [] => []
  | (name, item) :: rest => insertField (name, sorted item) (sortedFields rest)

end

/-- The start of a line at a depth. -/
def newLine (depth : Nat) : List Char :=
  '\n' :: List.replicate (2 * depth) ' '

mutual

/-- A value over several lines, whose brackets stand at the given depth. -/
def indentedAt (depth : Nat) : Value → List Char
  | .list [] => ['[', ']']
  | .list items => '[' :: indentedItems (depth + 1) items ++ newLine depth ++ [']']
  | .object [] => ['\x7b', '\x7d']
  | .object fields =>
      '\x7b' :: indentedFields (depth + 1) fields ++ newLine depth ++ ['\x7d']
  | .null => compact .null
  | .boolean value => compact (.boolean value)
  | .integer value => compact (.integer value)
  | .real value => compact (.real value)
  | .text value => compact (.text value)

/-- The items of a list, each on a line of its own. -/
def indentedItems (depth : Nat) : List Value → List Char
  | [] => []
  | [item] => newLine depth ++ indentedAt depth item
  | item :: rest => newLine depth ++ indentedAt depth item ++ ',' :: indentedItems depth rest

/-- The fields of an object, each on a line of its own. -/
def indentedFields (depth : Nat) : List (String × Value) → List Char
  | [] => []
  | [(name, item)] => newLine depth ++ quoted name ++ ':' :: ' ' :: indentedAt depth item
  | (name, item) :: rest =>
      newLine depth ++ quoted name ++ ':' :: ' ' :: indentedAt depth item ++
        ',' :: indentedFields depth rest

end

/-- A document over several lines, with the fields of every object sorted. -/
def indented (value : Value) : String :=
  String.ofList (indentedAt 0 (sorted value))

end GuardedInstall.Json
