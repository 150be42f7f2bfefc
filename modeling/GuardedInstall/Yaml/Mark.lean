/-!
# Places in a text

A place is known by the number of characters before it and by its line and
column. It is shown with the line on which it lies, cut to what stands near it,
and a sign under the character.
-/

namespace GuardedInstall.Yaml

/-- Whether a character ends a line. -/
def isBreak (c : Char) : Bool :=
  c == '\n' || c == '\r' || c == '\u0085' || c == '\u2028' || c == '\u2029'

/-- A place in a text. Lines and columns count from zero. -/
structure Mark where
  index : Nat
  line : Nat
  column : Nat
  deriving DecidableEq, Repr, Inhabited

namespace Mark

/-- The number of characters that are shown of a side of a line without cutting
it. -/
def uncut : Nat := 36

/-- The number of characters that are shown of a side of a line that is cut. -/
def kept : Nat := 32

/-- What stands for the part of a line that is cut away. -/
def ellipsis : List Char := " ... ".toList

/-- The characters of a side of a line that are shown, and what stands for the
others. -/
def shorten (side : List Char) : List Char × List Char :=
  if side.length ≤ uncut then (side, []) else (side.take kept, ellipsis)

/-- The blanks in front of a line that is shown. -/
def margin : Nat := 4

/-- The line of a place as it is shown, and the sign under the place. -/
def snippet (text : List Char) (mark : Mark) : List Char :=
  let isInside (c : Char) : Bool := !isBreak c
  let (before, head) := shorten ((text.take mark.index).reverse.takeWhile isInside)
  let (after, tail) := shorten ((text.drop mark.index).takeWhile isInside)
  let shift := margin + head.length + before.length
  List.replicate margin ' ' ++ head ++ before.reverse ++ after ++ tail ++
    '\n' :: List.replicate shift ' ' ++ ['^']

/-- How a place in a text is told. -/
def describe (text : List Char) (mark : Mark) : String :=
  s!"  in \"<unicode string>\", line {mark.line + 1}, column {mark.column + 1}:\n" ++
    String.ofList (mark.snippet text)

end Mark

end GuardedInstall.Yaml
