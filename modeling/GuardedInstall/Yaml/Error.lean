import GuardedInstall.Json.Reader
import GuardedInstall.Text.Quoted
import GuardedInstall.Text.Utf8
import GuardedInstall.Yaml.Token

/-!
# What is wrong with a document

An error tells what was being read and since where, what the problem is, and
where it was found. The module gives the words for each of them. An escape or a
version number that is out of range is no error of the document's form and has
no place.
-/

namespace GuardedInstall.Yaml

/-- Something that is read. -/
inductive Construct where
  | nextToken
  | possibleKey
  | directive
  | reference
  | anchor
  | tag
  | blockScalar
  | doubleQuotedScalar
  | quotedScalar
  | node
  | blockNode
  | flowNode
  | blockSequence
  | blockMapping
  | flowSequence
  | flowMapping
  deriving DecidableEq, Repr

/-- The words for something that is read. -/
def Construct.name : Construct → String
  | nextToken => "for the next token"
  | possibleKey => "a simple key"
  | directive => "a directive"
  | reference => "an alias"
  | anchor => "an anchor"
  | tag => "a tag"
  | blockScalar => "a block scalar"
  | doubleQuotedScalar => "a double-quoted scalar"
  | quotedScalar => "a quoted scalar"
  | node => "a node"
  | blockNode => "a block node"
  | flowNode => "a flow node"
  | blockSequence => "a block collection"
  | blockMapping => "a block mapping"
  | flowSequence => "a flow sequence"
  | flowMapping => "a flow mapping"

/-- What was going on when a problem was found. -/
inductive Activity where
  | scanning (construct : Construct)
  | parsing (construct : Construct)
  | constructing
  | readingOneDocument
  | namingAgain (anchor : String)
  deriving DecidableEq, Repr

/-- The words for an activity. -/
def Activity.message : Activity → String
  | scanning construct => s!"while scanning {construct.name}"
  | parsing construct => s!"while parsing {construct.name}"
  | constructing => "while constructing a mapping"
  | readingOneDocument => "expected a single document in the stream"
  | namingAgain anchor =>
      s!"found duplicate anchor {Text.Quoted.literal anchor}; first occurrence"

/-- What has to come at a place in the text. -/
inductive Expectation where
  | nameChar
  | digit
  | digitOrPoint
  | digitOrBlank
  | blank
  | commentOrBreak
  | indicators
  | hexDigits (count : Nat)
  | uriHexDigits
  | exclamation
  | closingAngle
  | uri
  deriving DecidableEq, Repr

/-- The words for what has to come. -/
def Expectation.message : Expectation → String
  | nameChar => "alphabetic or numeric character"
  | digit => "a digit"
  | digitOrPoint => "a digit or '.'"
  | digitOrBlank => "a digit or ' '"
  | blank => "' '"
  | commentOrBreak => "a comment or a line break"
  | indicators => "chomping or indentation indicators"
  | hexDigits count => s!"escape sequence of {count} hexadecimal numbers"
  | uriHexDigits => "URI escape sequence of 2 hexadecimal numbers"
  | exclamation => "'!'"
  | closingAngle => "'>'"
  | uri => "URI"

/-- A problem. Where a character was found, none stands for the end of the
text. -/
inductive Problem where
  | expected (expectation : Expectation) (found : Option Char)
  | cannotStart (found : Option Char)
  | unknownEscape (found : Option Char)
  | noColon
  | entryNotAllowed
  | keyNotAllowed
  | valueNotAllowed
  | indentationZero
  | textEnded
  | separator
  | notUtf8 (error : Text.Utf8.Error)
  | expectedDocument (found : Token)
  | expectedBlockEnd (found : Token)
  | expectedContent (found : Token)
  | expectedItem (found : Token)
  | expectedPair (found : Token)
  | versionTwice
  | versionUnknown
  | handleTwice (handle : List Char)
  | handleUnknown (handle : List Char)
  | aliasUnknown (name : String)
  | namedAgain
  | anotherDocument
  | recursive
  | keyNotText
  deriving DecidableEq, Repr

/-- A character as messages show it. -/
def foundText (found : Option Char) : String :=
  Text.Quoted.literal (found.getD '\x00').toString

/-- The words for a problem. -/
def Problem.message : Problem → String
  | expected expectation found => s!"expected {expectation.message}, but found {foundText found}"
  | cannotStart found => s!"found character {foundText found} that cannot start any token"
  | unknownEscape found => s!"found unknown escape character {foundText found}"
  | noColon => "could not find expected ':'"
  | entryNotAllowed => "sequence entries are not allowed here"
  | keyNotAllowed => "mapping keys are not allowed here"
  | valueNotAllowed => "mapping values are not allowed here"
  | indentationZero => "expected indentation indicator in the range 1-9, but found 0"
  | textEnded => "found unexpected end of stream"
  | separator => "found unexpected document separator"
  | notUtf8 error => error.message
  | expectedDocument found => s!"expected '<document start>', but found '{found.name}'"
  | expectedBlockEnd found => s!"expected <block end>, but found '{found.name}'"
  | expectedContent found => s!"expected the node content, but found '{found.name}'"
  | expectedItem found => s!"expected ',' or ']', but got '{found.name}'"
  | expectedPair found => s!"expected ',' or '\x7d', but got '{found.name}'"
  | versionTwice => "found duplicate YAML directive"
  | versionUnknown => "found incompatible YAML document (version 1.* is required)"
  | handleTwice handle => s!"duplicate tag handle {Text.Quoted.literal (String.ofList handle)}"
  | handleUnknown handle =>
      s!"found undefined tag handle {Text.Quoted.literal (String.ofList handle)}"
  | aliasUnknown name => s!"found undefined alias {Text.Quoted.literal name}"
  | namedAgain => "second occurrence"
  | anotherDocument => "but found another document"
  | recursive => "found unconstructable recursive node"
  | keyNotText => "found unhashable key"

/-- A problem at a place, and what was going on since which place. -/
structure Flaw where
  activity : Option (Activity × Mark)
  problem : Problem
  place : Mark
  deriving DecidableEq, Repr

/-- How a flaw of a text is told. The place of the activity is left out where it
is that of the problem. -/
def Flaw.message (text : List Char) (flaw : Flaw) : String :=
  let context := match flaw.activity with
    | some (activity, start) =>
        if start.line = flaw.place.line ∧ start.column = flaw.place.column then
          [activity.message]
        else [activity.message, start.describe text]
    | none => []
  "\n".intercalate (context ++ [flaw.problem.message, flaw.place.describe text])

/-- Why a text is not read. -/
inductive Error where
  /-- A character that may not stand in a document. -/
  | character (c : Char) (position : Nat)
  | malformed (flaw : Flaw)
  /-- An escape stands for a number above the last character. -/
  | beyondUnicode
  /-- An escape stands for a number that is out of every range. -/
  | beyondWord
  /-- A version number is too long. -/
  | tooManyDigits (count : Nat)
  deriving DecidableEq, Repr

/-- A number in base sixteen with four digits at least. -/
def hexText (value : Nat) : List Char :=
  if value < 0x10000 then Text.hexFixed 4 value else Nat.toDigits 16 value

/-- How an error of a text is told. -/
def Error.message (text : List Char) : Error → String
  | character c position =>
      s!"unacceptable character #x{String.ofList (hexText c.toNat)}: " ++
        s!"special characters are not allowed\n  in \"<unicode string>\", position {position}"
  | malformed flaw => flaw.message text
  | beyondUnicode => "chr() arg not in range(0x110000)"
  | beyondWord => "Python int too large to convert to C int"
  | tooManyDigits count => Json.tooManyDigitsMessage count

/-- The result of reading a text or its front. -/
abbrev Read (α : Type) := Except Error α

end GuardedInstall.Yaml
