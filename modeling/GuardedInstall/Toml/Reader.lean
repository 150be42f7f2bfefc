import GuardedInstall.Toml.Scalar

/-!
# Reading configuration files

A file is a sequence of lines: settings, and headers that open a table or a
further table of an array. The names that headers and dotted keys have opened
are kept as marks, since a table may be opened once only and an array or a
table that was written as a value may not be added to.
-/

namespace GuardedInstall.Toml

open Scalar (skipSpaces skipBlank isControl)

/-- A dotted key. -/
abbrev Key := List String

/-- What is recorded of a key. -/
inductive Mark where
  | opened
  | closed
  deriving DecidableEq, Repr

/-- The keys that are marked. -/
abbrev Marks := List (Key × Mark)

namespace Marks

/-- Whether a key was opened as a table. -/
def isOpened (marks : Marks) (key : Key) : Bool :=
  marks.contains (key, .opened)

/-- Whether a key lies at or below one that was written as a value. -/
def isClosed (marks : Marks) (key : Key) : Bool :=
  marks.any fun (marked, mark) => mark == .closed && marked.isPrefixOf key

/-- Forget what is recorded at and below a key. -/
def forget (marks : Marks) (key : Key) : Marks :=
  marks.filter fun (marked, _) => !key.isPrefixOf marked

end Marks

/-- A file that has been read in part. -/
structure Document where
  entries : Entries
  marks : Marks
  /-- Keys to be marked as opened when the next header comes. -/
  pending : List Key
  header : Key

namespace Reader

/-- Whether a character may stand in a key without quotes. -/
def isKeyChar (c : Char) : Bool :=
  c.isAlphanum || c == '-' || c == '_'

/-- Drop a comment. -/
def skipComment (text : List Char) : Option (List Char) :=
  match text with
  | '#' :: rest =>
      if (rest.takeWhile (· != '\n')).any isControl then none
      else some (rest.dropWhile (· != '\n'))
  | _ => some text

/-- Drop blanks, line ends and comments. -/
def skipLines : Nat → List Char → Option (List Char)
  | 0, text => some text
  | fuel + 1, text =>
      match skipBlank text with
      | '#' :: rest => (skipComment ('#' :: rest)).bind (skipLines fuel)
      | rest => some rest

/-- One name of a key. -/
def keyPart (text : List Char) : Option (String × List Char) :=
  match text with
  | '\'' :: rest =>
      (Scalar.literal rest).map fun (found, rest) => (String.ofList found, rest)
  | '"' :: rest =>
      (Scalar.basic false (rest.length + 1) rest).map fun (found, rest) =>
        (String.ofList found, rest)
  | c :: _ =>
      if isKeyChar c then
        some (String.ofList (text.takeWhile isKeyChar), text.dropWhile isKeyChar)
      else none
  | [] => none

/-- A dotted key, and what follows it and the blanks after it. -/
def key : Nat → List Char → Option (Key × List Char)
  | 0, _ => none
  | fuel + 1, text => do
      let (first, rest) ← keyPart text
      match skipSpaces rest with
      | '.' :: rest =>
          let (later, rest) ← key fuel (skipSpaces rest)
          pure (first :: later, rest)
      | rest => pure ([first], rest)

/-- Turn an absent result into an error. -/
def orMalformed {α : Type} : Option α → Read α
  | some found => .ok found
  | none => .error .malformed

/-- A table written as a value that has been read in part. -/
structure Inline where
  entries : Entries
  marks : Marks

/-- Add a setting to a table written as a value. -/
def Inline.add (inline : Inline) (key : Key) (value : Value) : Option Inline :=
  if inline.marks.isClosed key then none
  else
    (Entries.modifyAt false key.dropLast (Entries.addNew (key.getLastD "") value)
      inline.entries).map fun entries =>
        ⟨entries, if value.isContainer then (key, .closed) :: inline.marks else inline.marks⟩

mutual

/-- A value at the front of a text. -/
def value : Nat → List Char → Read (Value × List Char)
  | 0, _ => .error .malformed
  | fuel + 1, text =>
      match text with
      | '[' :: rest => do
          match ← orMalformed (skipLines fuel rest) with
          | ']' :: rest => pure (.array [], rest)
          | rest =>
              let (found, rest) ← items fuel rest
              pure (.array found, rest)
      | '\x7b' :: rest => do
          match skipSpaces rest with
          | '\x7d' :: rest => pure (.table [], rest)
          | rest =>
              let (found, rest) ← settings fuel ⟨[], []⟩ rest
              pure (.table found, rest)
      | _ => Scalar.value text

/-- The items of an array up to its closing bracket. -/
def items : Nat → List Char → Read (List Value × List Char)
  | 0, _ => .error .malformed
  | fuel + 1, text => do
      let (first, rest) ← value fuel text
      match ← orMalformed (skipLines fuel rest) with
      | ']' :: rest => pure ([first], rest)
      | ',' :: rest =>
          match ← orMalformed (skipLines fuel rest) with
          | ']' :: rest => pure ([first], rest)
          | rest =>
              let (later, rest) ← items fuel rest
              pure (first :: later, rest)
      | _ => throw .malformed

/-- A key, an equals sign and a value. -/
def setting : Nat → List Char → Read ((Key × Value) × List Char)
  | 0, _ => .error .malformed
  | fuel + 1, text => do
      let (name, rest) ← orMalformed (key fuel text)
      match rest with
      | '=' :: rest =>
          let (found, rest) ← value fuel (skipSpaces rest)
          pure ((name, found), rest)
      | _ => throw .malformed

/-- The settings of a table written as a value, up to its closing bracket. -/
def settings : Nat → Inline → List Char → Read (Entries × List Char)
  | 0, _, _ => .error .malformed
  | fuel + 1, inline, text => do
      let ((name, found), rest) ← setting fuel text
      let inline ← orMalformed (inline.add name found)
      match skipSpaces rest with
      | '\x7d' :: rest => pure (inline.entries, rest)
      | ',' :: rest => settings fuel inline (skipSpaces rest)
      | _ => throw .malformed

end

end Reader

namespace Document

/-- The document that holds nothing. -/
def empty : Document := ⟨[], [], [], []⟩

/-- The proper front parts of a key, from the first name on. -/
def frontParts (key : Key) : List Key :=
  (List.range (key.length - 1)).map fun index => key.take (index + 1)

/-- Add a setting below the current header. -/
def add (document : Document) (key : Key) (value : Value) : Option Document :=
  let opened := (frontParts key).map (document.header ++ ·)
  let parent := document.header ++ key.dropLast
  if opened.any document.marks.isOpened then none
  else if document.marks.isClosed parent then none
  else
    (Entries.modifyAt true parent (Entries.addNew (key.getLastD "") value)
      document.entries).map fun entries =>
        { document with
          entries
          pending := opened ++ document.pending
          marks :=
            if value.isContainer then (document.header ++ key, .closed) :: document.marks
            else document.marks }

/-- Mark the keys that wait for a header. -/
def settle (document : Document) : Document :=
  { document with
    marks := document.pending.map (·, Mark.opened) ++ document.marks
    pending := [] }

/-- Open the table of a header. -/
def openTable (document : Document) (key : Key) : Option Document :=
  if document.marks.isOpened key || document.marks.isClosed key then none
  else
    (Entries.modifyAt true key some document.entries).map fun entries =>
      { document with entries, header := key, marks := (key, .opened) :: document.marks }

/-- Open a further table of the array of a header. -/
def openFurther (document : Document) (key : Key) : Option Document :=
  if document.marks.isClosed key then none
  else
    (Entries.modifyAt true key.dropLast (Entries.appendTable (key.getLastD ""))
      document.entries).map fun entries =>
        { document with
          entries
          header := key
          marks := (key, .opened) :: document.marks.forget key }

/-- A header line, after its first bracket. -/
def openHeader (document : Document) (text : List Char) :
    Option (Document × List Char) :=
  match text with
  | '[' :: rest => do
      let (name, rest) ← Reader.key (rest.length + 1) (skipSpaces rest)
      let document ← document.settle.openFurther name
      match rest with
      | ']' :: ']' :: rest => pure (document, rest)
      | _ => none
  | _ => do
      let (name, rest) ← Reader.key (text.length + 1) (skipSpaces text)
      let document ← document.settle.openTable name
      match rest with
      | ']' :: rest => pure (document, rest)
      | _ => none

/-- One statement at the front of a text without leading blanks. -/
def statement (document : Document) (text : List Char) : Read (Document × List Char) :=
  match text with
  | '[' :: rest => Reader.orMalformed (document.openHeader rest)
  | '#' :: _ => .ok (document, text)
  | c :: _ =>
      if Reader.isKeyChar c ∨ c = '"' ∨ c = '\'' then do
        let ((name, value), rest) ← Reader.setting (2 * text.length + 4) text
        let document ← Reader.orMalformed (document.add name value)
        pure (document, rest)
      else .error .malformed
  | [] => .ok (document, [])

/-- Read the lines of a text into a document. -/
def readLines : Nat → Document → List Char → Read Document
  | 0, _, _ => .error .malformed
  | fuel + 1, document, text =>
      match skipSpaces text with
      | [] => .ok document
      | '\n' :: rest => readLines fuel document rest
      | start => do
          let (document, rest) ← document.statement start
          match ← Reader.orMalformed (Reader.skipComment (skipSpaces rest)) with
          | [] => pure document
          | '\n' :: rest => readLines fuel document rest
          | _ => throw .malformed

end Document

/-- Write the pair of a carriage return and a line feed as a line feed. -/
def joinLineEnds : List Char → List Char
  | '\r' :: '\n' :: rest => '\n' :: joinLineEnds rest
  | c :: rest => c :: joinLineEnds rest
  | [] => []

/-- Read a configuration file. -/
def read (text : List Char) : Read Entries := do
  let text := joinLineEnds text
  let document ← Document.readLines (text.length + 1) Document.empty text
  pure document.entries

end GuardedInstall.Toml
