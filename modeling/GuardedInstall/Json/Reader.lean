import GuardedInstall.Json.Value
import GuardedInstall.Text.Half

/-!
# Reading the data format

A document is one value with white space around it. Beside the standard's
numbers the three texts for infinity, its negative and the undefined number are
read. A name that comes twice in an object keeps its first place and its last
value. An integer may have at most 4300 digits.
-/

namespace GuardedInstall.Json

/-- Why a text is no document. -/
inductive ReadError where
  | malformed
  | tooManyDigits (count : Nat)
  deriving DecidableEq, Repr

/-- The greatest number of digits of an integer. -/
def digitLimit : Nat := 4300

/-- The message for an integer with more digits than the limit. -/
def tooManyDigitsMessage (count : Nat) : String :=
  s!"Exceeds the limit ({digitLimit} digits) for integer string conversion: " ++
    s!"value has {count} digits; use sys.set_int_max_str_digits() to increase the limit"

namespace Reader

/-- Drop the white space in front of a token. -/
def skipSpace (text : List Char) : List Char :=
  text.dropWhile fun c => c == ' ' || c == '\t' || c == '\n' || c == '\r'

/-- The character that a backslash and a letter stand for. -/
def escaped? : Char → Option Char
  | '"' => some '"'
  | '\\' => some '\\'
  | '/' => some '/'
  | 'b' => some '\x08'
  | 'f' => some '\x0c'
  | 'n' => some '\n'
  | 'r' => some '\r'
  | 't' => some '\t'
  | _ => none

/-- The number that four digits of base sixteen write. -/
def fourHex? (a b c d : Char) : Option Nat := do
  let a ← Text.hexDigit? a
  let b ← Text.hexDigit? b
  let c ← Text.hexDigit? c
  let d ← Text.hexDigit? d
  pure (Text.ofDigits 16 [a, b, c, d])

/-- The code units of a text up to its closing quote, and what follows. -/
def codes : List Char → Option (List Nat × List Char)
  | [] => none
  | '"' :: rest => some ([], rest)
  | '\\' :: 'u' :: a :: b :: c :: d :: rest => do
      let code ← fourHex? a b c d
      let (later, rest) ← codes rest
      pure (code :: later, rest)
  | '\\' :: letter :: rest => do
      let c ← escaped? letter
      let (later, rest) ← codes rest
      pure (c.toNat :: later, rest)
  | c :: rest =>
      if c.toNat < 0x20 then none
      else do
        let (later, rest) ← codes rest
        pure (c.toNat :: later, rest)

/-- The characters of a sequence of code units. A half without its partner
stays a half. -/
def joinPairs : List Nat → List Char
  | [] => []
  | [code] => [Text.Half.ofCode code]
  | code :: next :: rest =>
      if Text.Half.isHigh code && Text.Half.isLow next then
        Text.Half.joined code next :: joinPairs rest
      else Text.Half.ofCode code :: joinPairs (next :: rest)

/-- A text after its opening quote. -/
def string (text : List Char) : Except ReadError (String × List Char) :=
  match codes text with
  | some (units, rest) => .ok (String.ofList (joinPairs units), rest)
  | none => .error .malformed

/-- The number `digits * 10 ^ exponent`, rounded to a floating-point number. -/
def realOf (negative : Bool) (digits : List Nat) (exponent : Int) : Float :=
  let significant := digits.dropWhile (· == 0)
  let place := (significant.length : Int) + exponent
  let size :=
    if significant.isEmpty || place < -400 then 0
    else if 400 < place then 1 / 0
    else Float.ofScientific (Text.ofDigits 10 significant) (exponent < 0) exponent.natAbs
  if negative then -size else size

/-- The leading digits of a text and what follows. -/
def digits (text : List Char) : List Nat × List Char :=
  ((text.takeWhile Char.isDigit).map fun c => c.toNat - 48, text.dropWhile Char.isDigit)

/-- The digits after a point, if there are any. -/
def fraction? (text : List Char) : Option (List Nat × List Char) :=
  match text with
  | '.' :: rest =>
      match digits rest with
      | ([], _) => none
      | found => some found
  | _ => none

/-- The exponent after its letter, if it has digits. -/
def exponent? (text : List Char) : Option (Int × List Char) :=
  match text with
  | e :: rest =>
      if e = 'e' ∨ e = 'E' then
        let (negative, rest) := match rest with
          | '-' :: rest => (true, rest)
          | '+' :: rest => (false, rest)
          | rest => (false, rest)
        match digits rest with
        | ([], _) => none
        | (found, rest) =>
            let size := Text.ofDigits 10 found
            some (if negative then -(size : Int) else size, rest)
      else none
  | [] => none

/-- A number after its sign. -/
def number (negative : Bool) (text : List Char) : Except ReadError (Value × List Char) :=
  let (whole, rest) := match text with
    | '0' :: rest => ([0], rest)
    | _ => digits text
  if whole.isEmpty then .error .malformed
  else
    let fraction := fraction? rest
    let rest := (fraction.map (·.2)).getD rest
    let exponent := exponent? rest
    let rest := (exponent.map (·.2)).getD rest
    match fraction, exponent with
    | none, none =>
        if digitLimit < whole.length then .error (.tooManyDigits whole.length)
        else
          let size := Text.ofDigits 10 whole
          .ok (.integer (if negative then -(size : Int) else size), rest)
    | _, _ =>
        let decimals := (fraction.map (·.1)).getD []
        let power := (exponent.map (·.1)).getD 0
        .ok (.real (realOf negative (whole ++ decimals) (power - decimals.length)), rest)

/-- What follows a literal text at the front of a text. -/
def after? (front : String) (text : List Char) : Option (List Char) :=
  if front.toList.isPrefixOf text then some (text.drop front.length) else none

/-- A value that is neither a text, a list nor an object. -/
def simple (text : List Char) : Except ReadError (Value × List Char) :=
  match after? "null" text, after? "true" text, after? "false" text, after? "NaN" text,
    after? "Infinity" text, after? "-Infinity" text with
  | some rest, _, _, _, _, _ => .ok (.null, rest)
  | _, some rest, _, _, _, _ => .ok (.boolean true, rest)
  | _, _, some rest, _, _, _ => .ok (.boolean false, rest)
  | _, _, _, some rest, _, _ => .ok (.real (0 / 0), rest)
  | _, _, _, _, some rest, _ => .ok (.real (1 / 0), rest)
  | _, _, _, _, _, some rest => .ok (.real (-1 / 0), rest)
  | _, _, _, _, _, _ =>
      match text with
      | '-' :: rest => number true rest
      | _ => number false text

mutual

/-- A value at the front of a text without leading white space. -/
def value : Nat → List Char → Except ReadError (Value × List Char)
  | 0, _ => .error .malformed
  | fuel + 1, text =>
      match text with
      | '"' :: rest => do
          let (found, rest) ← string rest
          pure (.text found, rest)
      | '[' :: rest =>
          match skipSpace rest with
          | ']' :: rest => .ok (.list [], rest)
          | rest => do
              let (found, rest) ← items fuel rest
              pure (.list found, rest)
      | '\x7b' :: rest =>
          match skipSpace rest with
          | '\x7d' :: rest => .ok (.object [], rest)
          | rest => do
              let (found, rest) ← members fuel rest
              pure (.object (Table.ofList found), rest)
      | _ => simple text

/-- The items of a list up to its closing bracket. -/
def items : Nat → List Char → Except ReadError (List Value × List Char)
  | 0, _ => .error .malformed
  | fuel + 1, text => do
      let (first, rest) ← value fuel text
      match skipSpace rest with
      | ']' :: rest => pure ([first], rest)
      | ',' :: rest =>
          let (later, rest) ← items fuel (skipSpace rest)
          pure (first :: later, rest)
      | _ => throw .malformed

/-- The members of an object up to its closing bracket. -/
def members : Nat → List Char → Except ReadError (List (String × Value) × List Char)
  | 0, _ => .error .malformed
  | fuel + 1, text =>
      match text with
      | '"' :: rest => do
          let (name, rest) ← string rest
          match skipSpace rest with
          | ':' :: rest =>
              let (first, rest) ← value fuel (skipSpace rest)
              match skipSpace rest with
              | '\x7d' :: rest => pure ([(name, first)], rest)
              | ',' :: rest =>
                  let (later, rest) ← members fuel (skipSpace rest)
                  pure ((name, first) :: later, rest)
              | _ => throw .malformed
          | _ => throw .malformed
      | _ => .error .malformed

end

end Reader

/-- Read a document. Every bracket and every item takes a character, so the
length of the text bounds the depth of the reading. -/
def read (text : List Char) : Except ReadError Value := do
  let (value, rest) ← Reader.value (text.length + 1) (Reader.skipSpace text)
  if (Reader.skipSpace rest).isEmpty then pure value else throw .malformed

end GuardedInstall.Json
