import GuardedInstall.Json.Reader
import GuardedInstall.Toml.Value

/-!
# Texts, numbers and dates of configuration files

Each reader takes the text from the start of a value and gives the value and
what follows it.
-/

namespace GuardedInstall.Toml

open GuardedInstall.Json (ReadError)

/-- The result of reading a text or its front. -/
abbrev Read (α : Type) := Except ReadError α

namespace Scalar

/-- Whether a character is a control character other than the tab. -/
def isControl (c : Char) : Bool :=
  (c.toNat < 0x20 && c != '\t') || c.toNat == 0x7F

/-- Whether a character is a blank inside a line. -/
def isSpace (c : Char) : Bool :=
  c == ' ' || c == '\t'

/-- Drop blanks. -/
def skipSpaces (text : List Char) : List Char :=
  text.dropWhile isSpace

/-- Drop blanks and line ends. -/
def skipBlank (text : List Char) : List Char :=
  text.dropWhile fun c => isSpace c || c == '\n'

/-- The character that an escape of so many digits stands for. -/
def hexChar? (digits : List Char) : Option Char := do
  let digits ← digits.mapM Text.hexDigit?
  let code := Text.ofDigits 16 digits
  if code < 0xD800 ∨ (0xE000 ≤ code ∧ code < 0x110000) then some (Char.ofNat code) else none

/-- The character that a backslash and a letter stand for. -/
def escaped? : Char → Option Char
  | 'b' => some '\x08'
  | 't' => some '\t'
  | 'n' => some '\n'
  | 'f' => some '\x0c'
  | 'r' => some '\r'
  | '"' => some '"'
  | '\\' => some '\\'
  | _ => none

/-- What follows a backslash at the end of a line: the rest without the blanks
and line ends in front of the next character. -/
def continuation? (text : List Char) : Option (List Char) :=
  match text with
  | '\n' :: rest => some (skipBlank rest)
  | c :: _ =>
      if isSpace c then
        match skipSpaces text with
        | [] => some []
        | '\n' :: rest => some (skipBlank rest)
        | _ => none
      else none
  | [] => none

/-- An escape after its backslash. A line continuation gives no character. -/
def escape? (multiline : Bool) (text : List Char) : Option (List Char × List Char) :=
  match text with
  | 'u' :: rest =>
      if (rest.take 4).length < 4 then none
      else (hexChar? (rest.take 4)).map fun c => ([c], rest.drop 4)
  | 'U' :: rest =>
      if (rest.take 8).length < 8 then none
      else (hexChar? (rest.take 8)).map fun c => ([c], rest.drop 8)
  | c :: rest =>
      if multiline ∧ (isSpace c ∨ c = '\n') then
        (continuation? text).map fun rest => ([], rest)
      else (escaped? c).map fun c => ([c], rest)
  | [] => none

/-- A text between double quotes, after the opening ones. -/
def basic (multiline : Bool) : Nat → List Char → Option (List Char × List Char)
  | 0, _ => none
  | fuel + 1, text =>
      match text with
      | [] => none
      | '"' :: rest =>
          if !multiline then some ([], rest)
          else
            match rest with
            | '"' :: '"' :: rest => some ([], rest)
            | _ => (basic multiline fuel rest).map fun (later, rest) => ('"' :: later, rest)
      | '\\' :: rest => do
          let (found, rest) ← escape? multiline rest
          let (later, rest) ← basic multiline fuel rest
          pure (found ++ later, rest)
      | c :: rest =>
          if isControl c && !(multiline && c == '\n') then none
          else (basic multiline fuel rest).map fun (later, rest) => (c :: later, rest)

/-- A text between single quotes, after the opening one. -/
def literal : List Char → Option (List Char × List Char)
  | [] => none
  | '\'' :: rest => some ([], rest)
  | c :: rest =>
      if isControl c then none
      else (literal rest).map fun (later, rest) => (c :: later, rest)

/-- A text between three single quotes, after the opening ones. -/
def literalLines : List Char → Option (List Char × List Char)
  | [] => none
  | '\'' :: '\'' :: '\'' :: rest => some ([], rest)
  | c :: rest =>
      if isControl c && c != '\n' then none
      else (literalLines rest).map fun (later, rest) => (c :: later, rest)

/-- Up to two more quotes belong to a text that three quotes close. -/
def extraQuotes (quote : Char) (found : List Char) (rest : List Char) :
    List Char × List Char :=
  match rest with
  | first :: second :: later =>
      if first = quote then
        if second = quote then (found ++ [quote, quote], later)
        else (found ++ [quote], second :: later)
      else (found, rest)
  | [first] => if first = quote then (found ++ [quote], []) else (found, rest)
  | [] => (found, [])

/-- A line end right after three opening quotes does not belong to the text. -/
def dropFirstLineEnd : List Char → List Char
  | '\n' :: rest => rest
  | text => text

/-- A text, from its opening quotes on. -/
def text? (input : List Char) : Option (String × List Char) :=
  let found := match input with
    | '"' :: '"' :: '"' :: rest =>
        (basic true (rest.length + 1) (dropFirstLineEnd rest)).map fun (found, rest) =>
          extraQuotes '"' found rest
    | '"' :: rest => basic false (rest.length + 1) rest
    | '\'' :: '\'' :: '\'' :: rest =>
        (literalLines (dropFirstLineEnd rest)).map fun (found, rest) =>
          extraQuotes '\'' found rest
    | '\'' :: rest => literal rest
    | _ => none
  found.map fun (found, rest) => (String.ofList found, rest)

/-- Digits with single underscores between them, and what follows. -/
def digitRun (isDigit : Char → Bool) : List Char → List Char × List Char
  | [] => ([], [])
  | '_' :: c :: rest =>
      if isDigit c then
        let (later, rest) := digitRun isDigit rest
        (c :: later, rest)
      else ([], '_' :: c :: rest)
  | c :: rest =>
      if isDigit c then
        let (later, rest) := digitRun isDigit rest
        (c :: later, rest)
      else ([], c :: rest)

/-- Digits that start with a digit. -/
def digits? (isDigit : Char → Bool) (text : List Char) : Option (List Char × List Char) :=
  match text with
  | c :: rest =>
      if isDigit c then
        let (later, rest) := digitRun isDigit rest
        some (c :: later, rest)
      else none
  | [] => none

/-- The values of digits. -/
def values (digits : List Char) : List Nat :=
  digits.filterMap Text.hexDigit?

/-- An integer in base sixteen, eight or two, with its leading zero and
letter. -/
def based? (text : List Char) : Option (Value × List Char) :=
  let read (base : Nat) (isDigit : Char → Bool) (rest : List Char) :=
    (digits? isDigit rest).map fun (found, rest) =>
      (Value.integer (Text.ofDigits base (values found)), rest)
  match text with
  | '0' :: 'x' :: rest => read 16 (fun c => (Text.hexDigit? c).isSome) rest
  | '0' :: 'o' :: rest => read 8 (fun c => '0' ≤ c && c ≤ '7') rest
  | '0' :: 'b' :: rest => read 2 (fun c => c == '0' || c == '1') rest
  | _ => none

/-- The whole part of a decimal number: a zero, or digits that do not start with
one. -/
def whole? (text : List Char) : Option (List Char × List Char) :=
  match text with
  | '0' :: rest => some (['0'], rest)
  | _ => digits? Char.isDigit text

/-- The exponent of a decimal number. -/
def exponent? (text : List Char) : Option (Int × List Char) :=
  match text with
  | e :: rest =>
      if e = 'e' ∨ e = 'E' then
        let (negative, rest) := match rest with
          | '-' :: rest => (true, rest)
          | '+' :: rest => (false, rest)
          | rest => (false, rest)
        (digits? Char.isDigit rest).map fun (found, rest) =>
          let size := Text.ofDigits 10 (values found)
          (if negative then -(size : Int) else size, rest)
      else none
  | [] => none

/-- A sign and what follows it. -/
def sign (text : List Char) : Bool × List Char :=
  match text with
  | '-' :: rest => (true, rest)
  | '+' :: rest => (false, rest)
  | _ => (false, text)

/-- A decimal number, if one stands in front. -/
def decimal? (text : List Char) : Option (Read (Value × List Char)) :=
  let (negative, rest) := sign text
  (whole? rest).map fun (whole, rest) =>
    let fraction := match rest with
      | '.' :: rest => digits? Char.isDigit rest
      | _ => none
    let rest := (fraction.map (·.2)).getD rest
    let exponent := exponent? rest
    let rest := (exponent.map (·.2)).getD rest
    let whole := values whole
    match fraction, exponent with
    | none, none =>
        if Json.digitLimit < whole.length then .error (.tooManyDigits whole.length)
        else
          let size := Text.ofDigits 10 whole
          .ok (.integer (if negative then -(size : Int) else size), rest)
    | _, _ =>
        let decimals := values ((fraction.map (·.1)).getD [])
        let power := (exponent.map (·.1)).getD 0 - decimals.length
        .ok (.real (Json.Reader.realOf negative (whole ++ decimals) power), rest)

/-- A number of two digits within bounds. -/
def twoDigits? (low high : Nat) (text : List Char) : Option (Nat × List Char) :=
  match text with
  | a :: b :: rest =>
      match Text.asciiDigit? a, Text.asciiDigit? b with
      | some a, some b =>
          let value := 10 * a + b
          if low ≤ value ∧ value ≤ high then some (value, rest) else none
      | _, _ => none
  | _ => none

/-- What follows a character. -/
def afterChar? (c : Char) (text : List Char) : Option (List Char) :=
  match text with
  | first :: rest => if first = c then some rest else none
  | [] => none

/-- What follows a time of day with seconds and perhaps a fraction of them. -/
def afterTime? (text : List Char) : Option (List Char) := do
  let (_, rest) ← twoDigits? 0 23 text
  let rest ← afterChar? ':' rest
  let (_, rest) ← twoDigits? 0 59 rest
  let rest ← afterChar? ':' rest
  let (_, rest) ← twoDigits? 0 59 rest
  match rest with
  | '.' :: c :: later => if c.isDigit then some (later.dropWhile Char.isDigit) else some rest
  | _ => some rest

/-- What follows the offset of a time from universal time, if there is one. -/
def afterOffset (text : List Char) : List Char :=
  match text with
  | c :: rest =>
      if c = 'Z' ∨ c = 'z' then rest
      else if c = '+' ∨ c = '-' then
        let found := do
          let (_, rest) ← twoDigits? 0 23 rest
          let rest ← afterChar? ':' rest
          let (_, rest) ← twoDigits? 0 59 rest
          pure rest
        found.getD text
      else text
  | [] => []

/-- The number of days of a month. -/
def daysIn (year month : Nat) : Nat :=
  if month = 2 then
    if year % 4 = 0 ∧ (year % 100 ≠ 0 ∨ year % 400 = 0) then 29 else 28
  else if month = 4 ∨ month = 6 ∨ month = 9 ∨ month = 11 then 30
  else 31

/-- A year, a month and a day, and what follows. -/
def date? (text : List Char) : Option ((Nat × Nat × Nat) × List Char) := do
  let (century, rest) ← twoDigits? 0 99 text
  let (years, rest) ← twoDigits? 0 99 rest
  let rest ← afterChar? '-' rest
  let (month, rest) ← twoDigits? 1 12 rest
  let rest ← afterChar? '-' rest
  let (day, rest) ← twoDigits? 1 31 rest
  pure ((100 * century + years, month, day), rest)

/-- What follows a time after a date, if there is one. -/
def afterTimePart (text : List Char) : List Char :=
  match text with
  | c :: rest =>
      if c = 'T' ∨ c = 't' ∨ c = ' ' then ((afterTime? rest).map afterOffset).getD text
      else text
  | [] => []

/-- A date, a time or both, if one stands in front. A day that its month does
not have is an error. -/
def moment? (text : List Char) : Option (Read (Value × List Char)) :=
  match date? text with
  | some ((year, month, day), rest) =>
      if year = 0 ∨ daysIn year month < day then some (.error .malformed)
      else some (.ok (.moment, afterTimePart rest))
  | none => (afterTime? text).map fun rest => .ok (.moment, rest)

/-- Infinity or the undefined number, with or without a sign. -/
def special? (text : List Char) : Option (Value × List Char) :=
  let (negative, rest) := sign text
  match rest with
  | 'i' :: 'n' :: 'f' :: rest => some (.real (if negative then -1 / 0 else 1 / 0), rest)
  | 'n' :: 'a' :: 'n' :: rest => some (.real (0 / 0), rest)
  | _ => none

/-- A value that is neither an array nor a table. -/
def value (text : List Char) : Read (Value × List Char) :=
  match text with
  | '"' :: _ | '\'' :: _ =>
      match text? text with
      | some (found, rest) => .ok (.text found, rest)
      | none => .error .malformed
  | 't' :: 'r' :: 'u' :: 'e' :: rest => .ok (.boolean true, rest)
  | 'f' :: 'a' :: 'l' :: 's' :: 'e' :: rest => .ok (.boolean false, rest)
  | _ =>
      match moment? text, based? text, decimal? text, special? text with
      | some found, _, _, _ => found
      | none, some found, _, _ => .ok found
      | none, none, some found, _ => found
      | none, none, none, some found => .ok found
      | none, none, none, none => .error .malformed

end Scalar

end GuardedInstall.Toml
