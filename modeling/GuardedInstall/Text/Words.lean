/-!
# Words of a command line

A command line is cut into words at blanks. Single quotes keep everything
between them; double quotes too, except that a backslash before a double quote
or a backslash is dropped; outside of quotes a backslash keeps the next
character. Quotes make a word even if nothing stands between them.
-/

namespace GuardedInstall.Text.Words

/-- Why a text is no command line. -/
inductive Error where
  | noClosingQuote
  | noEscapedCharacter
  deriving DecidableEq, Repr

/-- The message of an error. -/
def Error.message : Error → String
  | noClosingQuote => "No closing quotation"
  | noEscapedCharacter => "No escaped character"

/-- Where in a word a character stands. -/
inductive Mode where
  | plain
  | quoted (quote : Char)
  | escaped (quote : Option Char)
  deriving DecidableEq, Repr

/-- Whether a character separates words. -/
def isSeparator (c : Char) : Bool :=
  c == ' ' || c == '\t' || c == '\r' || c == '\n'

/-- Put a character at the end of the word that is being read. The word is held
with its last character first. -/
def push (c : Char) (word : Option (List Char)) : Option (List Char) :=
  some (c :: word.getD [])

/-- The word that is being read, if there is one. -/
def finished (word : Option (List Char)) : List String :=
  word.toList.map fun word => String.ofList word.reverse

/-- The words of the rest of a text, given the word that is being read. -/
def splitFrom : Option (List Char) → Mode → List Char → Except Error (List String)
  | word, .plain, [] => .ok (finished word)
  | _, .quoted _, [] => .error .noClosingQuote
  | _, .escaped _, [] => .error .noEscapedCharacter
  | word, .plain, c :: rest =>
      if isSeparator c then do
        let later ← splitFrom none .plain rest
        pure (finished word ++ later)
      else if c = '\\' then splitFrom word (.escaped none) rest
      else if c = '\'' ∨ c = '"' then splitFrom (some (word.getD [])) (.quoted c) rest
      else splitFrom (push c word) .plain rest
  | word, .quoted quote, c :: rest =>
      if c = quote then splitFrom word .plain rest
      else if c = '\\' ∧ quote = '"' then splitFrom word (.escaped (some quote)) rest
      else splitFrom (push c word) (.quoted quote) rest
  | word, .escaped none, c :: rest => splitFrom (push c word) .plain rest
  | word, .escaped (some quote), c :: rest =>
      if c = '\\' ∨ c = quote then splitFrom (push c word) (.quoted quote) rest
      else splitFrom (push c (push '\\' word)) (.quoted quote) rest

/-- Cut a command line into its words. -/
def split (text : String) : Except Error (List String) :=
  splitFrom none .plain text.toList

end GuardedInstall.Text.Words
