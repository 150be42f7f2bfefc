import GuardedInstall.Text.LowerCase
import GuardedInstall.Text.Blank
import GuardedInstall.Text.Pieces

/-!
# Styles

A style is written in words: attributes, the colour of the characters, and after
the word `on` the colour behind them. The word `not` takes an attribute back, and
of two colours the last one counts. A terminal is told a style by numbers, those
of its attributes in a fixed order and then those of its colours. A text that is
no style changes nothing.
-/

namespace GuardedInstall.Console

/-- What a style asks for: attributes and two colours, all by their numbers. -/
structure Style where
  attributes : List Nat
  front : Option Nat
  back : Option Nat
  deriving DecidableEq, Repr

namespace Style

/-- The style that changes nothing. -/
def bare : Style := ⟨[], none, none⟩

/-- The attributes by their names and numbers, in the order in which a terminal is
told of them. -/
def attributeNames : List (List String × Nat) :=
  [(["bold", "b"], 1), (["dim", "d"], 2), (["italic", "i"], 3), (["underline", "u"], 4),
    (["blink"], 5), (["blink2"], 6), (["reverse", "r"], 7), (["conceal", "c"], 8),
    (["strike", "s"], 9), (["underline2", "uu"], 21), (["frame"], 51), (["encircle"], 52),
    (["overline", "o"], 53)]

/-- The number of an attribute. -/
def attribute? (word : String) : Option Nat :=
  (attributeNames.find? fun entry => entry.1.contains word).map (·.2)

/-- The colours in the order of their numbers. -/
def colourNames : List String :=
  ["black", "red", "green", "yellow", "blue", "magenta", "cyan", "white"]

/-- A word in lower case. -/
def lowered (word : String) : String :=
  String.ofList (Text.lower word.toList)

/-- The number of a colour of characters: the eight colours, their bright forms,
and the one that the terminal has of itself. -/
def colour? (word : String) : Option Nat :=
  let word := lowered word
  if word = "default" then some 39
  else
    ((colourNames.findIdx? (· == word)).map (30 + ·)).or
      ((colourNames.findIdx? fun name => "bright_" ++ name == word).map (90 + ·))

/-- Add words to a style, unless one of them is unknown. -/
def addWords : Style → List String → Option Style
  | style, [] => some style
  | style, word :: rest =>
      if lowered word = "on" then
        match rest with
        | colour :: rest =>
            (colour? colour).bind fun number =>
              addWords { style with back := some (number + 10) } rest
        | [] => none
      else if lowered word = "not" then
        match rest with
        | name :: rest =>
            (attribute? name).bind fun number =>
              addWords { style with attributes := style.attributes.filter (· ≠ number) } rest
        | [] => none
      else
        match attribute? (lowered word) with
        | some number => addWords { style with attributes := number :: style.attributes } rest
        | none =>
            (colour? word).bind fun number => addWords { style with front := some number } rest

/-- The style that a text writes. -/
def ofText (text : String) : Style :=
  let words := (Text.piecesAt Text.isBlank text.toList).filter (· ≠ [])
  (addWords bare (words.map String.ofList)).getD bare

/-- The numbers with which a terminal is told a style. -/
def numbers (style : Style) : List Nat :=
  (attributeNames.map (·.2)).filter style.attributes.contains ++
    style.front.toList ++ style.back.toList

end Style

end GuardedInstall.Console
