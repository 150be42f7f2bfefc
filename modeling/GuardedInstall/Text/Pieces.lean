/-!
# Pieces between separators

A text is cut at every separator; there is one piece more than there are
separators. Putting the separators back gives the text again.
-/

namespace GuardedInstall.Text

/-- The pieces of a text between the characters that satisfy a test. -/
def piecesAt (isSeparator : Char → Bool) : List Char → List (List Char)
  | [] => [[]]
  | c :: rest =>
      match piecesAt isSeparator rest with
      | [] => [[c]]
      | piece :: later =>
          if isSeparator c then [] :: piece :: later else (c :: piece) :: later

/-- The pieces of a text between occurrences of a character. -/
def pieces (separator : Char) (text : List Char) : List (List Char) :=
  piecesAt (· == separator) text

end GuardedInstall.Text
