import GuardedInstall.Console.Style
import GuardedInstall.Text.Cells

/-!
# Styled text

A styled text is a list of pieces, each in one style. It can be seen as plain
text with spans that say which stretch of it has which style, and it can be
drawn on a terminal. Characters that would move a terminal's cursor are dropped
when a piece is made, so positions count the characters that are kept.
-/

namespace GuardedInstall.Console

/-- Whether a character is kept: neither bell, nor backspace, nor one of the
movements to another line. -/
def isKept (c : Char) : Bool :=
  c != '\x07' && c != '\x08' && c != '\x0b' && c != '\x0c' && c != '\r'

/-- A stretch of text in one style. The empty style is none. -/
structure Piece where
  text : List Char
  style : String
  deriving DecidableEq, Repr

/-- A text in pieces. -/
abbrev Styled := List Piece

/-- Where a style begins and ends in a plain text. -/
structure Span where
  start : Nat
  stop : Nat
  style : String
  deriving DecidableEq, Repr

namespace Styled

/-- The styled text of one string. -/
def ofString (text : String) (style : String) : Styled :=
  [⟨text.toList.filter isKept, style⟩]

/-- The styled text of a string without a style. -/
def unstyled (text : String) : Styled :=
  ofString text ""

/-- The characters of a styled text. -/
def plain (text : Styled) : List Char :=
  text.flatMap Piece.text

/-- The spans of a styled text that starts at an offset. -/
def spansFrom (offset : Nat) : Styled → List Span
  | [] => []
  | piece :: rest =>
      let stop := offset + piece.text.length
      if piece.text = [] ∨ piece.style = "" then spansFrom stop rest
      else ⟨offset, stop, piece.style⟩ :: spansFrom stop rest

/-- The spans of a styled text. A piece without characters or without a style
has none. -/
def spans (text : Styled) : List Span :=
  spansFrom 0 text

/-- The characters that switch a terminal by numbers. -/
def switchTo (numbers : List Nat) : List Char :=
  '\x1b' :: '[' :: ([';'].intercalate (numbers.map (Nat.toDigits 10)) ++ ['m'])

/-- A run of characters as a terminal shows it in a style. -/
def paint (colour : Bool) (style : String) (run : List Char) : List Char :=
  let numbers := (Style.ofText style).numbers
  if colour && run != [] && numbers != [] then switchTo numbers ++ run ++ switchTo [0] else run

/-- The distance between two tab stops, in cells. -/
def tabWidth : Nat := 8

/-- The number of blanks that stand for each tab of a text, given the column at
which its current stretch began and what has been measured of it. A stretch ends
with a tab, which is one blank and as many more as lead to the next stop. -/
def tabBlanks (column : Nat) (measure : Text.Measure) : List Char → List Nat
  | [] => []
  | c :: rest =>
      if c = '\n' then tabBlanks 0 Text.Measure.start rest
      else if c = '\t' then
        let reached := column + (measure.add ' ').cells
        let padding := (tabWidth - reached % tabWidth) % tabWidth
        (1 + padding) :: tabBlanks (reached + padding) Text.Measure.start rest
      else tabBlanks column (measure.add c) rest

/-- Draw characters, given the blanks for the tabs that are left. A styled run
ends before each line feed and after each tab. The run that is being read has its
last character first. -/
def drawFrom (paint : List Char → List Char) (run : List Char) :
    List Nat → List Char → List Char × List Nat
  | tabs, [] => (paint run.reverse, tabs)
  | tabs, c :: rest =>
      if c = '\n' then
        let (drawn, tabs) := drawFrom paint [] tabs rest
        (paint run.reverse ++ '\n' :: drawn, tabs)
      else if c = '\t' then
        let (drawn, later) := drawFrom paint [] tabs.tail rest
        (paint (run.reverse ++ List.replicate (tabs.headD 1) ' ') ++ drawn, later)
      else drawFrom paint (c :: run) tabs rest

/-- Draw pieces, given the blanks for the tabs that are left. -/
def drawPieces (colour : Bool) : List Nat → Styled → List Char
  | _, [] => []
  | tabs, piece :: rest =>
      let (drawn, later) := drawFrom (paint colour piece.style) [] tabs piece.text
      drawn ++ drawPieces colour later rest

/-- What a terminal is sent for a styled text at the start of a line. -/
def draw (colour : Bool) (text : Styled) : List Char :=
  drawPieces colour (tabBlanks 0 Text.Measure.start text.plain) text

@[simp]
theorem plain_nil : plain [] = [] :=
  rfl

@[simp]
theorem plain_cons (piece : Piece) (rest : Styled) :
    plain (piece :: rest) = piece.text ++ plain rest :=
  rfl

@[simp]
theorem plain_append (first second : Styled) :
    plain (first ++ second) = plain first ++ plain second := by
  simp [plain]

/-- The spans of a text in two parts: those of the second part start where the
first part ends. -/
theorem spansFrom_append (offset : Nat) (first second : Styled) :
    spansFrom offset (first ++ second) =
      spansFrom offset first ++ spansFrom (offset + (plain first).length) second := by
  induction first generalizing offset with
  | nil => simp [spansFrom]
  | cons piece rest ih =>
      simp only [List.cons_append, spansFrom, plain_cons, List.length_append, ih,
        Nat.add_assoc]
      split <;> rfl

/-- Spans have characters and come one after the other, between the offset and the end of
the text. -/
theorem spansFrom_pairwise (offset : Nat) (text : Styled) :
    (spansFrom offset text).Pairwise (fun first second => first.stop ≤ second.start) ∧
      ∀ span ∈ spansFrom offset text,
        offset ≤ span.start ∧ span.start < span.stop ∧
          span.stop ≤ offset + (plain text).length := by
  induction text generalizing offset with
  | nil => simp [spansFrom]
  | cons piece rest ih =>
      obtain ⟨apart, bounds⟩ := ih (offset + piece.text.length)
      simp only [spansFrom, plain_cons, List.length_append]
      split
      · refine ⟨apart, fun span among => ?_⟩
        have := bounds span among
        omega
      · rename_i shown
        have filled : 0 < piece.text.length := List.length_pos_iff.mpr (not_or.mp shown).1
        refine ⟨List.pairwise_cons.mpr ⟨fun span among => (bounds span among).1, apart⟩, ?_⟩
        intro span among
        rcases List.mem_cons.mp among with rfl | later
        · exact ⟨Nat.le_refl _, Nat.lt_add_of_pos_right filled,
            Nat.add_le_add_left (Nat.le_add_right _ _) _⟩
        · have := bounds span later
          omega

end Styled

end GuardedInstall.Console
