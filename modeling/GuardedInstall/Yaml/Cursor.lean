import GuardedInstall.Yaml.Error

/-!
# Going through a document

A cursor is the text that is left together with where it starts. Lines are
ended by the line feed and by three characters beyond ASCII, of which one is
read as a line feed and two stand for themselves. The byte order mark takes no
column.
-/

namespace GuardedInstall.Yaml

/-- Whether a character is a blank or ends a line. -/
def isGap (c : Char) : Bool :=
  c == ' ' || c == '\t' || isBreak c

/-- Whether a character may stand in a document. -/
def isAllowed (c : Char) : Bool :=
  let code := c.toNat
  code == 0x09 || code == 0x0A || code == 0x0D || (0x20 ≤ code && code ≤ 0x7E) ||
    code == 0x85 || (0xA0 ≤ code && code ≤ 0xFFFD) || 0x10000 ≤ code

/-- Whether a character may stand in the name of an anchor or a tag handle. -/
def isNameChar (c : Char) : Bool :=
  c.isAlphanum || c == '-' || c == '_'

/-- What the characters of a text satisfy at its start: the end of the text
counts as a gap. -/
def startsWithGap : List Char → Bool
  | [] => true
  | c :: _ => isGap c

/-- Whether a text is at its end or at the end of a line. -/
def atLineEnd : List Char → Bool
  | [] => true
  | c :: _ => isBreak c

/-- Whether a text is at its end, at a blank or at the end of a line. Tabs do
not count. -/
def atSpaceOrEnd : List Char → Bool
  | [] => true
  | c :: _ => c == ' ' || isBreak c

/-- A place in a document. -/
structure Cursor where
  rest : List Char
  mark : Mark
  /-- A number of steps that going through the text never takes. -/
  bound : Nat

namespace Cursor

/-- The start of a text. -/
def start (text : List Char) : Cursor := ⟨text, ⟨0, 0, 0⟩, text.length + 1⟩

/-- The column of a place. -/
def column (cursor : Cursor) : Nat := cursor.mark.column

/-- Move over one character. -/
def advance (cursor : Cursor) : Cursor :=
  match cursor.rest with
  | [] => cursor
  | c :: rest =>
      let ⟨index, line, column⟩ := cursor.mark
      let mark : Mark :=
        if isBreak c && !(c == '\r' && rest.head? == some '\n') then ⟨index + 1, line + 1, 0⟩
        else if c == '\ufeff' then ⟨index + 1, line, column⟩
        else ⟨index + 1, line, column + 1⟩
      { cursor with rest, mark }

/-- Move over so many characters. -/
def advanceBy : Nat → Cursor → Cursor
  | 0, cursor => cursor
  | count + 1, cursor => advanceBy count cursor.advance

/-- The next character. -/
def peek (cursor : Cursor) : Option Char := cursor.rest.head?

/-- Whether the next character satisfies a test. -/
def sees (test : Char → Bool) (cursor : Cursor) : Bool :=
  cursor.peek.any test

/-- Move over the characters in front that satisfy a test. -/
def skipWhile (test : Char → Bool) (cursor : Cursor) : Cursor :=
  cursor.advanceBy (cursor.rest.takeWhile test).length

/-- The characters in front that satisfy a test, and the place after them. -/
def takeWhile (test : Char → Bool) (cursor : Cursor) : List Char × Cursor :=
  let found := cursor.rest.takeWhile test
  (found, cursor.advanceBy found.length)

/-- Move over blanks up to a column. -/
def skipIndent (column : Nat) (cursor : Cursor) : Cursor :=
  let blanks := (cursor.rest.takeWhile (· == ' ')).length
  cursor.advanceBy (min blanks (column - cursor.column))

/-- Move over the end of a line and give the text that it stands for. -/
def lineBreak (cursor : Cursor) : List Char × Cursor :=
  match cursor.rest with
  | '\r' :: '\n' :: _ => (['\n'], cursor.advanceBy 2)
  | c :: _ =>
      if c == '\u2028' || c == '\u2029' then ([c], cursor.advance)
      else if isBreak c then (['\n'], cursor.advance)
      else ([], cursor)
  | [] => ([], cursor)

/-- Whether three marks that separate documents stand in front. -/
def atSeparator (cursor : Cursor) : Bool :=
  match cursor.rest with
  | a :: b :: c :: rest =>
      ((a == '-' && b == '-' && c == '-') || (a == '.' && b == '.' && c == '.')) &&
        startsWithGap rest
  | _ => false

/-- The error of a problem that is found at a place, given what was going on
since another place. -/
def flaw (cursor : Cursor) (activity : Activity) (start : Mark) (problem : Problem) : Error :=
  .malformed ⟨some (activity, start), problem, cursor.mark⟩

end Cursor

end GuardedInstall.Yaml
