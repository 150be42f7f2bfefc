import GuardedInstall.Text.Half
import GuardedInstall.Yaml.Cursor

/-!
# Scalars, tags and anchors

The readers of the tokens that carry text. Each starts at its first character
and gives what it read and the place after it. A line end inside a scalar is
folded into a blank, and a run of line ends loses its first one. Errors tell the
place at which the token started.
-/

namespace GuardedInstall.Yaml

namespace Scalar

/-- The text that a line end and the empty lines after it are folded into. -/
def fold (first : List Char) (later : List Char) : List Char :=
  if first ≠ ['\n'] then first ++ later
  else if later = [] then [' ']
  else later

/-- The line ends in front of the next text in a quoted scalar, with the blanks
between them dropped. A separator of documents may not come there. -/
def quotedBreaks (start : Mark) : Nat → Cursor → Read (List Char × Cursor)
  | 0, cursor => .ok ([], cursor)
  | fuel + 1, cursor =>
      if cursor.atSeparator then
        .error (cursor.flaw (.scanning .quotedScalar) start .separator)
      else
        let cursor := cursor.skipWhile fun c => c == ' ' || c == '\t'
        if cursor.sees isBreak then do
          let (first, cursor) := cursor.lineBreak
          let (later, cursor) ← quotedBreaks start fuel cursor
          pure (first ++ later, cursor)
        else .ok ([], cursor)

/-- The character that a backslash and a letter stand for. -/
def escaped? : Char → Option Char
  | '0' => some '\x00'
  | 'a' => some '\x07'
  | 'b' => some '\x08'
  | 't' => some '\t'
  | '\t' => some '\t'
  | 'n' => some '\n'
  | 'v' => some '\x0b'
  | 'f' => some '\x0c'
  | 'r' => some '\r'
  | 'e' => some '\x1b'
  | ' ' => some ' '
  | '"' => some '"'
  | '\\' => some '\\'
  | '/' => some '/'
  | 'N' => some '\u0085'
  | '_' => some '\u00a0'
  | 'L' => some '\u2028'
  | 'P' => some '\u2029'
  | _ => none

/-- The number of digits of an escape by number. -/
def escapeWidth? : Char → Option Nat
  | 'x' => some 2
  | 'u' => some 4
  | 'U' => some 8
  | _ => none

/-- The character with a number. A number that stands for half a pair of code
units gives the half. -/
def ofNumber (code : Nat) : Read Char :=
  if 0x80000000 ≤ code then .error .beyondWord
  else if 0x110000 ≤ code then .error .beyondUnicode
  else .ok (Text.Half.ofCode code)

/-- The number that so many digits of base sixteen write in front of a text, or
the first character that is none. -/
def hexNumber (width : Nat) (text : List Char) : Except (Option Char) Nat :=
  let digits := (text.take width).takeWhile fun c => (Text.hexDigit? c).isSome
  if digits.length < width then .error (text.drop digits.length).head?
  else .ok (Text.ofDigits 16 (digits.filterMap Text.hexDigit?))

/-- An escape after its backslash. -/
def escape (start : Mark) (cursor : Cursor) : Read (List Char × Cursor) :=
  match cursor.peek.bind escaped?, cursor.peek.bind escapeWidth? with
  | some c, _ => .ok ([c], cursor.advance)
  | none, some width =>
      let cursor := cursor.advance
      match hexNumber width cursor.rest with
      | .ok code => do
          let c ← ofNumber code
          pure ([c], cursor.advanceBy width)
      | .error found =>
          .error (cursor.flaw (.scanning .doubleQuotedScalar) start
            (.expected (.hexDigits width) found))
  | none, none =>
      if cursor.sees isBreak then quotedBreaks start cursor.bound cursor.lineBreak.2
      else
        .error (cursor.flaw (.scanning .doubleQuotedScalar) start (.unknownEscape cursor.peek))

/-- A quoted scalar after its opening quote. -/
def quoted (start : Mark) (quote : Char) : Nat → Cursor → Read (List Char × Cursor)
  | 0, cursor => .error (cursor.flaw (.scanning .quotedScalar) start .textEnded)
  | fuel + 1, cursor =>
      match cursor.rest with
      | [] => .error (cursor.flaw (.scanning .quotedScalar) start .textEnded)
      | c :: rest =>
          if c = quote then
            if quote = '\'' ∧ rest.head? = some '\'' then do
              let (later, cursor) ← quoted start quote fuel (cursor.advanceBy 2)
              pure ('\'' :: later, cursor)
            else .ok ([], cursor.advance)
          else if c = '\\' ∧ quote = '"' then do
            let (found, cursor) ← escape start cursor.advance
            let (later, cursor) ← quoted start quote fuel cursor
            pure (found ++ later, cursor)
          else if isGap c then do
            let (blanks, cursor) := cursor.takeWhile fun c => c == ' ' || c == '\t'
            if cursor.sees isBreak then
              let (first, cursor) := cursor.lineBreak
              let (breaks, cursor) ← quotedBreaks start cursor.bound cursor
              let (later, cursor) ← quoted start quote fuel cursor
              pure (fold first breaks ++ later, cursor)
            else
              let (later, cursor) ← quoted start quote fuel cursor
              pure (blanks ++ later, cursor)
          else do
            let (later, cursor) ← quoted start quote fuel cursor.advance
            pure (c :: later, cursor)

/-- What is read after a word of a plain scalar: the blanks or the folded line
ends before its next word, and whether a line ended. Nothing is given when a
separator of documents follows. -/
structure PlainGap where
  text : List Char
  cursor : Cursor
  ended : Bool

/-- The further line ends after the first one in a plain scalar. -/
def plainBreaks : Nat → List Char → Cursor → Option (List Char) × Cursor
  | 0, found, cursor => (some found, cursor)
  | fuel + 1, found, cursor =>
      if cursor.sees (· == ' ') then plainBreaks fuel found cursor.advance
      else if cursor.sees isBreak then
        let (next, cursor) := cursor.lineBreak
        if cursor.atSeparator then (none, cursor)
        else plainBreaks fuel (found ++ next) cursor
      else (some found, cursor)

/-- The gap after a word of a plain scalar. -/
def plainGap (cursor : Cursor) : PlainGap :=
  let (blanks, cursor) := cursor.takeWhile (· == ' ')
  if cursor.sees isBreak then
    let (first, cursor) := cursor.lineBreak
    if cursor.atSeparator then ⟨[], cursor, true⟩
    else
      match plainBreaks cursor.bound [] cursor with
      | (some later, cursor) => ⟨fold first later, cursor, true⟩
      | (none, cursor) => ⟨[], cursor, true⟩
  else ⟨blanks, cursor, false⟩

/-- The number of characters of a word of a plain scalar. -/
def plainWord (inFlow : Bool) : List Char → Nat
  | [] => 0
  | c :: rest =>
      if isGap c then 0
      else if c == ':' &&
          (startsWithGap rest ||
            (inFlow && rest.head?.any fun c => ",[]\x7b\x7d".toList.contains c)) then 0
      else if inFlow && ",?[]\x7b\x7d".toList.contains c then 0
      else plainWord inFlow rest + 1

/-- A plain scalar. The flag tells whether a line ended after its last word. -/
def plain (inFlow : Bool) (indent : Int) (before : List Char) (ended : Bool) :
    Nat → Cursor → List Char × Bool × Cursor
  | 0, cursor => ([], ended, cursor)
  | fuel + 1, cursor =>
      let length := plainWord inFlow cursor.rest
      if cursor.peek = some '#' ∨ length = 0 then ([], ended, cursor)
      else
        let word := cursor.rest.take length
        let gap := plainGap (cursor.advanceBy length)
        if gap.text = [] ∨ gap.cursor.peek = some '#' ∨
            (inFlow = false ∧ (gap.cursor.column : Int) < indent) then
          (before ++ word, gap.ended, gap.cursor)
        else
          let (later, ended, cursor) := plain inFlow indent gap.text gap.ended fuel gap.cursor
          (before ++ word ++ later, ended, cursor)

/-- How the line ends after a block scalar are kept. -/
inductive Chomping where
  | strip
  | clip
  | keep
  deriving DecidableEq, Repr

/-- The header of a block scalar: how it ends, and its indentation if given. -/
def blockHeader (start : Mark) (cursor : Cursor) :
    Read ((Chomping × Option Nat) × Cursor) := do
  let chomping (cursor : Cursor) : Chomping × Cursor :=
    match cursor.peek with
    | some '+' => (.keep, cursor.advance)
    | some '-' => (.strip, cursor.advance)
    | _ => (.clip, cursor)
  let increment (cursor : Cursor) : Read (Option Nat × Cursor) :=
    match cursor.peek.bind Text.asciiDigit? with
    | some 0 => .error (cursor.flaw (.scanning .blockScalar) start .indentationZero)
    | some digit => .ok (some digit, cursor.advance)
    | none => .ok (none, cursor)
  let (first, cursor) := chomping cursor
  let (width, cursor) ← increment cursor
  let (ending, cursor) :=
    if first = .clip ∧ width ≠ none then chomping cursor else (first, cursor)
  if atSpaceOrEnd cursor.rest then pure ((ending, width), cursor)
  else
    throw (cursor.flaw (.scanning .blockScalar) start (.expected .indicators cursor.peek))

/-- Move over the rest of a line that holds a comment at most. -/
def endOfLine (construct : Construct) (start : Mark) (cursor : Cursor) : Read Cursor :=
  let cursor := cursor.skipWhile (· == ' ')
  let cursor :=
    if cursor.peek = some '#' then cursor.skipWhile fun c => !isBreak c else cursor
  if atLineEnd cursor.rest then .ok cursor.lineBreak.2
  else
    .error (cursor.flaw (.scanning construct) start (.expected .commentOrBreak cursor.peek))

/-- The empty lines in front of a block scalar, and the greatest column that
their blanks reach. -/
def blockIndentation (widest : Nat) : Nat → Cursor → List Char × Nat × Cursor
  | 0, cursor => ([], widest, cursor)
  | fuel + 1, cursor =>
      if cursor.sees (· == ' ') then
        let cursor := cursor.advance
        blockIndentation (max widest cursor.column) fuel cursor
      else if cursor.sees isBreak then
        let (first, cursor) := cursor.lineBreak
        let (later, widest, cursor) := blockIndentation widest fuel cursor
        (first ++ later, widest, cursor)
      else ([], widest, cursor)

/-- The empty lines inside a block scalar. -/
def blockBreaks (indent : Nat) : Nat → Cursor → List Char × Cursor
  | 0, cursor => ([], cursor)
  | fuel + 1, cursor =>
      let cursor := cursor.skipIndent indent
      if cursor.sees isBreak then
        let (first, cursor) := cursor.lineBreak
        let (later, cursor) := blockBreaks indent fuel cursor
        (first ++ later, cursor)
      else ([], cursor)

/-- The lines of a block scalar from a place on, given the empty lines before
it. The last line end and the empty lines after it are given apart. -/
def blockLines (folded : Bool) (indent : Nat) (breaks : List Char) :
    Nat → Cursor → List Char × List Char × List Char × Cursor
  | 0, cursor => ([], [], breaks, cursor)
  | fuel + 1, cursor =>
      if cursor.column ≠ indent ∨ cursor.rest = [] then ([], [], breaks, cursor)
      else
        let blankFirst := cursor.sees fun c => c == ' ' || c == '\t'
        let (line, cursor) := cursor.takeWhile fun c => !isBreak c
        let (lineEnd, cursor) := cursor.lineBreak
        let (next, cursor) := blockBreaks indent cursor.bound cursor
        if cursor.column = indent ∧ cursor.rest ≠ [] then
          let joined :=
            if folded ∧ lineEnd = ['\n'] ∧ blankFirst = false ∧
                cursor.sees (fun c => c == ' ' || c == '\t') = false then
              if next = [] then [' '] else []
            else lineEnd
          let (later, ending, trailing, cursor) := blockLines folded indent next fuel cursor
          (breaks ++ line ++ joined ++ later, ending, trailing, cursor)
        else (breaks ++ line, lineEnd, next, cursor)

/-- A block scalar after its mark, inside a node of the given indentation. -/
def block (folded : Bool) (parent : Int) (start : Mark) (cursor : Cursor) :
    Read (List Char × Cursor) := do
  let ((chomping, increment), cursor) ← blockHeader start cursor
  let cursor ← endOfLine .blockScalar start cursor
  let least := (max (parent + 1) 1).toNat
  let fuel := cursor.bound
  let (breaks, indent, cursor) := match increment with
    | some width =>
        let indent := least + width - 1
        let (breaks, cursor) := blockBreaks indent fuel cursor
        (breaks, indent, cursor)
    | none =>
        let (breaks, widest, cursor) := blockIndentation 0 fuel cursor
        (breaks, max least widest, cursor)
  let (lines, ending, trailing, cursor) := blockLines folded indent breaks fuel cursor
  pure (lines ++
    (if chomping = .strip then [] else ending) ++
    (if chomping = .keep then trailing else []), cursor)

end Scalar

namespace Tag

/-- Whether a character may stand in a tag. -/
def isTagChar (c : Char) : Bool :=
  c.isAlphanum || "-;/?:@&=+$,_.!~*'()[]%".toList.contains c

/-- The bytes that escapes stand for, and the place after them. The bytes come
with the last one first. -/
def escapes (construct : Construct) (start : Mark) (bytes : List UInt8) :
    Nat → Cursor → Read (List UInt8 × Cursor)
  | 0, cursor => .ok (bytes, cursor)
  | fuel + 1, cursor =>
      if cursor.peek = some '%' then
        let cursor := cursor.advance
        match Scalar.hexNumber 2 cursor.rest with
        | .ok code =>
            escapes construct start (UInt8.ofNat code :: bytes) fuel (cursor.advanceBy 2)
        | .error found =>
            .error (cursor.flaw (.scanning construct) start (.expected .uriHexDigits found))
      else .ok (bytes, cursor)

/-- Move over the characters that may stand in a tag. Every run of escapes writes
a text. -/
def skipUri (construct : Construct) (start : Mark) : Nat → Cursor → Read Cursor
  | 0, cursor => .ok cursor
  | fuel + 1, cursor =>
      let cursor := cursor.skipWhile fun c => isTagChar c && c != '%'
      if cursor.peek = some '%' then do
        let (bytes, after) ← escapes construct start [] cursor.bound cursor
        match Text.Utf8.error? bytes.reverse with
        | some error => throw (cursor.flaw (.scanning construct) start (.notUtf8 error))
        | none => skipUri construct start fuel after
      else .ok cursor

/-- Move over the text of a tag without its handle. -/
def uri (construct : Construct) (start : Mark) (cursor : Cursor) : Read Cursor := do
  let after ← skipUri construct start cursor.bound cursor
  if after.mark = cursor.mark then
    throw (cursor.flaw (.parsing construct) start (.expected .uri cursor.peek))
  pure after

/-- The handle of a tag. -/
def handle (construct : Construct) (start : Mark) (cursor : Cursor) :
    Read (List Char × Cursor) :=
  let missing (cursor : Cursor) : Error :=
    cursor.flaw (.scanning construct) start (.expected .exclamation cursor.peek)
  match cursor.rest with
  | '!' :: rest =>
      if rest.head? = some ' ' then .ok (['!'], cursor.advance)
      else
        let name := rest.takeWhile isNameChar
        let after := cursor.advanceBy (name.length + 1)
        if after.peek = some '!' then .ok ('!' :: name ++ ['!'], after.advance)
        else .error (missing after)
  | _ => .error (missing cursor)

/-- A tag, given by its handle if it has one. -/
def tag (cursor : Cursor) : Read (Option (List Char) × Cursor) := do
  let start := cursor.mark
  let rest := cursor.rest.drop 1
  let (found, cursor) ←
    if rest.head? = some '<' then do
      let after ← uri .tag start (cursor.advanceBy 2)
      if after.peek = some '>' then pure (none, after.advance)
      else throw (after.flaw (.parsing .tag) start (.expected .closingAngle after.peek))
    else if startsWithGap rest then pure (none, cursor.advance)
    else if (rest.takeWhile fun c => c != ' ' && !isBreak c).contains '!' then do
      let (name, after) ← handle .tag start cursor
      pure (some name, ← uri .tag start after)
    else pure (some ['!'], ← uri .tag start cursor.advance)
  if atSpaceOrEnd cursor.rest then pure (found, cursor)
  else throw (cursor.flaw (.scanning .tag) start (.expected .blank cursor.peek))

/-- The name of an anchor or an alias after its mark. -/
def anchorName (construct : Construct) (cursor : Cursor) : Read (String × Cursor) :=
  let (name, after) := cursor.advance.takeWhile isNameChar
  let ended := startsWithGap after.rest ||
    after.sees fun c => "?:,]\x7d%@`".toList.contains c
  if name = [] ∨ !ended then
    .error (after.flaw (.scanning construct) cursor.mark (.expected .nameChar after.peek))
  else .ok (String.ofList name, after)

end Tag

end GuardedInstall.Yaml
