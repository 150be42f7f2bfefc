import GuardedInstall.Json.Reader
import GuardedInstall.Text.Blank

/-!
# Integers in texts

A count may come as a text: an integer in the decimal digits of any script,
with a sign, with single underscores between digits, and with white space
around it. The information separators are no white space here.
-/

namespace GuardedInstall.Analysis.Integer

/-- Why a text is no integer. -/
inductive Error where
  | invalid
  | tooManyDigits (count : Nat)
  deriving DecidableEq, Repr

/-- Whether a character may stand around an integer. -/
def isAround (c : Char) : Bool :=
  Text.isBlank c && !(0x1C ≤ c.toNat && c.toNat ≤ 0x1F)

/-- The digits in front of a text, with single underscores between them, and
what follows. An underscore that no digit follows is an error. -/
def digits : List Char → Option (List Nat × List Char)
  | [] => some ([], [])
  | '_' :: rest =>
      match rest with
      | c :: _ => if (Text.digitValue? c).isSome then digits rest else none
      | [] => none
  | c :: rest =>
      match Text.digitValue? c with
      | some value => (digits rest).map fun (later, rest) => (value :: later, rest)
      | none => some ([], c :: rest)

/-- The integer after its sign. -/
def unsigned (text : List Char) : Except Error Nat :=
  match text with
  | '_' :: _ => .error .invalid
  | _ =>
      match digits text with
      | none => .error .invalid
      | some (found, rest) =>
          if Json.digitLimit < found.length then .error (.tooManyDigits found.length)
          else if found = [] ∨ !rest.all isAround then .error .invalid
          else .ok (Text.ofDigits 10 found)

/-- The integer that a text writes. -/
def ofText (text : String) : Except Error Int :=
  match text.toList.dropWhile isAround with
  | '-' :: rest => (unsigned rest).map fun size => -(size : Int)
  | '+' :: rest => (unsigned rest).map fun size => (size : Int)
  | rest => (unsigned rest).map fun size => (size : Int)

/-- The longest part of a text's literal that a message shows. -/
def shownLength : Nat := 200

/-- The message for a text that is no integer. -/
def message (text : String) : Error → String
  | .invalid =>
      let shown := String.ofList ((Text.Quoted.encode text.toList).take shownLength)
      s!"invalid literal for int() with base 10: {shown}"
  | .tooManyDigits count => Json.tooManyDigitsMessage count

end GuardedInstall.Analysis.Integer
