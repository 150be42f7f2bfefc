import GuardedInstall.Yaml.Scalar

/-!
# Cutting a document into tokens

Tokens are cut when they are asked for. A block of entries or of keys opens
where an indicator stands deeper than the block around it, and closes where a
token stands less deep. Whether a scalar is a key is known only at the colon
after it. Until then the place of the scalar is remembered, one for each level of
brackets, and the tokens from there on wait; a key ends on its own line within
1024 characters.
-/

namespace GuardedInstall.Yaml

/-- A place at which a key may have started. -/
structure PossibleKey where
  /-- The number of tokens before it. -/
  position : Nat
  /-- Whether only a key may stand there. -/
  required : Bool
  mark : Mark

/-- A document that has been cut in part. -/
structure Lexer where
  cursor : Cursor
  /-- The tokens that wait, the next one first. -/
  waiting : List PlacedToken
  /-- The number of tokens that were handed out. -/
  taken : Nat
  /-- Whether the end of the text has become a token. -/
  ended : Bool
  /-- The number of open brackets. -/
  depth : Nat
  /-- The column of the current block, and those of the blocks around it. -/
  indent : Int
  outer : List Int
  /-- Whether a key may start here. -/
  keyAllowed : Bool
  keys : List (Nat × PossibleKey)

namespace Lexer

/-- The lexer at the start of a text. A byte order mark is passed over. -/
def start (text : List Char) : Lexer :=
  let cursor := Cursor.start text
  let cursor := if text.head? = some '\ufeff' then cursor.advance else cursor
  ⟨cursor, [], 0, false, 0, -1, [], true, []⟩

/-- The number of tokens so far. -/
def count (lexer : Lexer) : Nat :=
  lexer.taken + lexer.waiting.length

/-- Add a token that starts at a place. -/
def emitFrom (lexer : Lexer) (start : Mark) (token : Token) : Lexer :=
  { lexer with waiting := lexer.waiting ++ [⟨token, start⟩] }

/-- Add a token that starts here. -/
def emit (lexer : Lexer) (token : Token) : Lexer :=
  lexer.emitFrom lexer.cursor.mark token

/-- Add a token that starts at a place before the one at a position. -/
def emitAt (lexer : Lexer) (position : Nat) (start : Mark) (token : Token) : Lexer :=
  let before := position - lexer.taken
  { lexer with
    waiting := lexer.waiting.take before ++ ⟨token, start⟩ :: lexer.waiting.drop before }

/-- Move over characters. -/
def moveBy (lexer : Lexer) (count : Nat) : Lexer :=
  { lexer with cursor := lexer.cursor.advanceBy count }

/-- Drop the blanks, comments and line ends in front of the next token. A key
may start on a new line outside of brackets. -/
def skipGap : Nat → Lexer → Lexer
  | 0, lexer => lexer
  | fuel + 1, lexer =>
      let cursor := lexer.cursor.skipWhile (· == ' ')
      let cursor :=
        if cursor.peek = some '#' then cursor.skipWhile fun c => !isBreak c else cursor
      if cursor.sees isBreak then
        skipGap fuel
          { lexer with
            cursor := cursor.lineBreak.2
            keyAllowed := lexer.keyAllowed || lexer.depth == 0 }
      else { lexer with cursor }

/-- The error for a key without its colon. -/
def noColon (lexer : Lexer) (key : PossibleKey) : Error :=
  lexer.cursor.flaw (.scanning .possibleKey) key.mark .noColon

/-- The greatest number of characters from the start of a key to its colon. -/
def keyLimit : Nat := 1024

/-- Forget the places at which a key can no longer have started. -/
def dropStaleKeys (lexer : Lexer) : Read Lexer :=
  let isStale (key : PossibleKey) : Bool :=
    key.mark.line != lexer.cursor.mark.line ||
      keyLimit < lexer.cursor.mark.index - key.mark.index
  match lexer.keys.find? fun (_, key) => isStale key && key.required with
  | some (_, key) => .error (lexer.noColon key)
  | none => .ok { lexer with keys := lexer.keys.filter fun (_, key) => !isStale key }

/-- The place at which a key may have started between the current brackets. -/
def possibleKey? (lexer : Lexer) : Option PossibleKey :=
  lexer.keys.lookup lexer.depth

/-- Forget that place, unless it must be a key. -/
def removeKey (lexer : Lexer) : Read Lexer :=
  match lexer.possibleKey? with
  | some key =>
      if key.required then .error (lexer.noColon key)
      else .ok { lexer with keys := lexer.keys.filter fun (level, _) => level != lexer.depth }
  | none => .ok lexer

/-- Remember that a key may start here. -/
def saveKey (lexer : Lexer) : Read Lexer :=
  if lexer.keyAllowed then do
    let cleared ← lexer.removeKey
    let key : PossibleKey :=
      { position := lexer.count
        required := lexer.depth == 0 && lexer.indent == (lexer.cursor.column : Int)
        mark := lexer.cursor.mark }
    pure { cleared with keys := (lexer.depth, key) :: cleared.keys }
  else .ok lexer

/-- Close the blocks that are deeper than a column. -/
def unwindTo (column : Int) (lexer : Lexer) : Lexer :=
  if lexer.depth ≠ 0 then lexer
  else
    let rec close : List Int → Lexer → Lexer
      | [], lexer => lexer
      | next :: outer, lexer =>
          if column < lexer.indent then
            close outer { lexer.emit .blockEnd with indent := next, outer }
          else lexer
    close lexer.outer lexer

/-- Open a block at a column if it is deeper than the current one. -/
def deepen (lexer : Lexer) (column : Nat) : Bool × Lexer :=
  if lexer.indent < (column : Int) then
    (true, { lexer with indent := column, outer := lexer.indent :: lexer.outer })
  else (false, lexer)

/-- Begin a token outside of all blocks. -/
def atTop (lexer : Lexer) : Read Lexer := do
  let lexer ← (lexer.unwindTo (-1)).removeKey
  pure { lexer with keyAllowed := false }

/-- A number of a version. -/
def versionNumber (start : Mark) (cursor : Cursor) : Read (Nat × Cursor) :=
  let (digits, after) := cursor.takeWhile Char.isDigit
  if digits = [] then
    .error (cursor.flaw (.scanning .directive) start (.expected .digit cursor.peek))
  else if Json.digitLimit < digits.length then .error (.tooManyDigits digits.length)
  else .ok (Text.ofDigits 10 (digits.map fun c => c.toNat - 48), after)

/-- A directive line. -/
def directive (cursor : Cursor) : Read (Directive × Cursor) := do
  let start := cursor.mark
  let expected (expectation : Expectation) (cursor : Cursor) : Error :=
    cursor.flaw (.scanning .directive) start (.expected expectation cursor.peek)
  let (name, cursor) := cursor.advance.takeWhile isNameChar
  if name = [] ∨ !atSpaceOrEnd cursor.rest then throw (expected .nameChar cursor)
  let (found, cursor) ←
    if name = "YAML".toList then
      let (major, cursor) ← versionNumber start (cursor.skipWhile (· == ' '))
      if cursor.peek ≠ some '.' then throw (expected .digitOrPoint cursor)
      let (_, cursor) ← versionNumber start cursor.advance
      if !atSpaceOrEnd cursor.rest then throw (expected .digitOrBlank cursor)
      pure (Directive.version major, cursor)
    else if name = "TAG".toList then
      let (handle, cursor) ← Tag.handle .directive start (cursor.skipWhile (· == ' '))
      if cursor.peek ≠ some ' ' then throw (expected .blank cursor)
      let cursor ← Tag.uri .directive start (cursor.skipWhile (· == ' '))
      if !atSpaceOrEnd cursor.rest then throw (expected .blank cursor)
      pure (Directive.handle handle, cursor)
    else pure (Directive.other, cursor.skipWhile fun c => !isBreak c)
  let cursor ← Scalar.endOfLine .directive start cursor
  pure (found, cursor)

/-- The token of an opening bracket. -/
def openBracket (lexer : Lexer) (token : Token) : Read Lexer := do
  let lexer ← lexer.saveKey
  pure ({ lexer with depth := lexer.depth + 1, keyAllowed := true }.emit token |>.moveBy 1)

/-- The token of a closing bracket. One without an opening bracket closes
nothing. -/
def closeBracket (lexer : Lexer) (token : Token) : Read Lexer := do
  let lexer ← lexer.removeKey
  pure ({ lexer with depth := lexer.depth - 1, keyAllowed := false }.emit token |>.moveBy 1)

/-- The token of a comma. -/
def comma (lexer : Lexer) : Read Lexer := do
  let lexer ← lexer.removeKey
  pure ({ lexer with keyAllowed := true }.emit .flowEntry |>.moveBy 1)

/-- Open a block at the current column, where an indicator may stand. -/
def openBlock (lexer : Lexer) (token : Token) (problem : Problem) : Read Lexer :=
  if lexer.depth ≠ 0 then .ok lexer
  else if !lexer.keyAllowed then .error (.malformed ⟨none, problem, lexer.cursor.mark⟩)
  else
    let (opened, lexer) := lexer.deepen lexer.cursor.column
    .ok (if opened then lexer.emit token else lexer)

/-- The token of a dash. -/
def dash (lexer : Lexer) : Read Lexer := do
  let lexer ← lexer.openBlock .blockSequenceStart .entryNotAllowed
  let lexer ← { lexer with keyAllowed := true }.removeKey
  pure (lexer.emit .blockEntry |>.moveBy 1)

/-- The token of a question mark. -/
def question (lexer : Lexer) : Read Lexer := do
  let lexer ← lexer.openBlock .blockMappingStart .keyNotAllowed
  let lexer ← { lexer with keyAllowed := lexer.depth == 0 }.removeKey
  pure (lexer.emit .key |>.moveBy 1)

/-- The token of a colon. If a key may have started before it, that place now
is a key. -/
def colon (lexer : Lexer) : Read Lexer := do
  let lexer ← match lexer.possibleKey? with
    | some key =>
        let lexer :=
          { lexer with keys := lexer.keys.filter fun (level, _) => level != lexer.depth }
        let lexer := lexer.emitAt key.position key.mark .key
        let lexer :=
          if lexer.depth = 0 then
            let (opened, lexer) := lexer.deepen key.mark.column
            if opened then lexer.emitAt key.position key.mark .blockMappingStart else lexer
          else lexer
        pure { lexer with keyAllowed := false }
    | none => do
        let lexer ← lexer.openBlock .blockMappingStart .valueNotAllowed
        { lexer with keyAllowed := lexer.depth == 0 }.removeKey
  pure (lexer.emit .value |>.moveBy 1)

/-- Begin a token that may be a key or belong to one. -/
def content (lexer : Lexer) : Read Lexer := do
  let lexer ← lexer.saveKey
  pure { lexer with keyAllowed := false }

/-- Add a token that starts here and ends at a cursor. -/
def emitTo (lexer : Lexer) (token : Token) (cursor : Cursor) : Lexer :=
  { lexer.emit token with cursor }

/-- A quoted scalar. -/
def quotedScalar (lexer : Lexer) (quote : Char) : Read Lexer := do
  let lexer ← lexer.content
  let cursor := lexer.cursor.advance
  let (text, cursor) ← Scalar.quoted lexer.cursor.mark quote cursor.bound cursor
  pure (lexer.emitTo (.scalar (String.ofList text)) cursor)

/-- A block scalar. -/
def blockScalar (lexer : Lexer) (folded : Bool) : Read Lexer := do
  let lexer ← { lexer with keyAllowed := true }.removeKey
  let (text, cursor) ←
    Scalar.block folded lexer.indent lexer.cursor.mark lexer.cursor.advance
  pure (lexer.emitTo (.scalar (String.ofList text)) cursor)

/-- A plain scalar. A key may start after it if a line ended there. -/
def plainScalar (lexer : Lexer) : Read Lexer := do
  let lexer ← lexer.content
  let (text, ended, cursor) :=
    Scalar.plain (lexer.depth != 0) (lexer.indent + 1) [] false
      lexer.cursor.bound lexer.cursor
  pure { lexer.emitTo (.scalar (String.ofList text)) cursor with keyAllowed := ended }

/-- Whether a plain scalar may start with a character, given what follows it. -/
def startsPlain (depth : Nat) (c : Char) (rest : List Char) : Bool :=
  !(isGap c || "-?:,[]\x7b\x7d#&*!|>'\"%@`".toList.contains c) ||
    (!startsWithGap rest && (c == '-' || (depth == 0 && (c == '?' || c == ':'))))

/-- The next token, given its first character and what follows. -/
def token (lexer : Lexer) (c : Char) (rest : List Char) : Read Lexer := do
  let cursor := lexer.cursor
  let atMargin := cursor.column == 0
  let alone := startsWithGap rest
  if c = '%' ∧ atMargin then
    let lexer ← lexer.atTop
    let (found, cursor) ← directive cursor
    pure (lexer.emitTo (.directive found) cursor)
  else if c = '-' ∧ atMargin ∧ cursor.atSeparator then
    let lexer ← lexer.atTop
    pure (lexer.emit .documentStart |>.moveBy 3)
  else if c = '.' ∧ atMargin ∧ cursor.atSeparator then
    let lexer ← lexer.atTop
    pure (lexer.emit .documentEnd |>.moveBy 3)
  else if c = '[' then lexer.openBracket .flowSequenceStart
  else if c = '\x7b' then lexer.openBracket .flowMappingStart
  else if c = ']' then lexer.closeBracket .flowSequenceEnd
  else if c = '\x7d' then lexer.closeBracket .flowMappingEnd
  else if c = ',' then lexer.comma
  else if c = '-' ∧ alone then lexer.dash
  else if c = '?' ∧ (lexer.depth ≠ 0 ∨ alone) then lexer.question
  else if c = ':' ∧ (lexer.depth ≠ 0 ∨ alone) then lexer.colon
  else if c = '*' then
    let lexer ← lexer.content
    let (name, cursor) ← Tag.anchorName .reference lexer.cursor
    pure (lexer.emitTo (.reference name) cursor)
  else if c = '&' then
    let lexer ← lexer.content
    let (name, cursor) ← Tag.anchorName .anchor lexer.cursor
    pure (lexer.emitTo (.anchor name) cursor)
  else if c = '!' then
    let lexer ← lexer.content
    let (handle, cursor) ← Tag.tag lexer.cursor
    pure (lexer.emitTo (.tag handle) cursor)
  else if c = '|' ∧ lexer.depth = 0 then lexer.blockScalar false
  else if c = '>' ∧ lexer.depth = 0 then lexer.blockScalar true
  else if c = '\'' ∨ c = '"' then lexer.quotedScalar c
  else if startsPlain lexer.depth c rest then lexer.plainScalar
  else throw (cursor.flaw (.scanning .nextToken) cursor.mark (.cannotStart (some c)))

/-- Cut the next token and those that come with it. -/
def cut (lexer : Lexer) : Read Lexer := do
  let lexer ← (skipGap lexer.cursor.bound lexer).dropStaleKeys
  let lexer := lexer.unwindTo lexer.cursor.column
  match lexer.cursor.rest with
  | c :: rest => lexer.token c rest
  | [] =>
      let lexer ← lexer.atTop
      pure { lexer.emit .textEnd with keys := [], ended := true }

/-- Whether the next token may turn out to come after a key. -/
def isOpen (lexer : Lexer) : Bool :=
  lexer.keys.any fun (_, key) => key.position == lexer.taken

/-- Cut tokens until the next one is certain. Only the places of keys that can
still be keys hold it back. -/
def fill : Nat → Lexer → Read Lexer
  | 0, lexer => .ok lexer
  | fuel + 1, lexer =>
      if lexer.ended then .ok lexer
      else if lexer.waiting.isEmpty then do fill fuel (← lexer.cut)
      else do
        let lexer ← lexer.dropStaleKeys
        if lexer.isOpen then fill fuel (← lexer.cut) else pure lexer

/-- The next token. After the last one the end of the text comes again and
again. -/
def next (lexer : Lexer) : Read (PlacedToken × Lexer) := do
  let lexer ← fill (lexer.cursor.bound + 1) lexer
  pure (lexer.waiting.head?.getD ⟨.textEnd, lexer.cursor.mark⟩, lexer)

/-- Hand out the next token. -/
def drop (lexer : Lexer) : Lexer :=
  { lexer with waiting := lexer.waiting.tail, taken := lexer.taken + 1 }

end Lexer

end GuardedInstall.Yaml
