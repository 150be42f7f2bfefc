import GuardedInstall.Text.Blank

/-!
# Lines of a text

A text read from a file first has its carriage returns replaced by line feeds,
alone or before a line feed. Lines are then cut at every line break; a break
at the very end opens no further line.
-/

namespace GuardedInstall.Text

/-- Write every carriage return, and every carriage return with its line feed,
as one line feed. -/
def normaliseNewlines : List Char → List Char
  | '\r' :: '\n' :: rest => '\n' :: normaliseNewlines rest
  | '\r' :: rest => '\n' :: normaliseNewlines rest
  | c :: rest => c :: normaliseNewlines rest
  | [] => []

/-- Put a character in front of the first line, opening it if there is none. -/
def extendFirst (c : Char) : List (List Char) → List (List Char)
  | [] => [[c]]
  | line :: later => (c :: line) :: later

/-- Cut a text at its line breaks. A carriage return and the line feed after it
are one break. -/
def lines : List Char → List (List Char)
  | [] => []
  | '\r' :: '\n' :: rest => [] :: lines rest
  | c :: rest => if isLineBreak c then [] :: lines rest else extendFirst c (lines rest)

end GuardedInstall.Text
