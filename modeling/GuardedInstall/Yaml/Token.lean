import GuardedInstall.Yaml.Mark

/-!
# Tokens of a document

A document is a sequence of tokens that make its indentation explicit. The
module says what the tokens are and how they are named in messages.
-/

namespace GuardedInstall.Yaml

/-- A line in front of a document that concerns its reading. -/
inductive Directive where
  | version (major : Nat)
  | handle (name : List Char)
  | other
  deriving DecidableEq, Repr

/-- A token. -/
inductive Token where
  | directive (content : Directive)
  | documentStart
  | documentEnd
  | textEnd
  | blockSequenceStart
  | blockMappingStart
  | blockEnd
  | flowSequenceStart
  | flowSequenceEnd
  | flowMappingStart
  | flowMappingEnd
  | blockEntry
  | flowEntry
  | key
  | value
  /-- An alias, with the name of the anchor that it stands for. -/
  | reference (name : String)
  | anchor (name : String)
  | tag (handle : Option (List Char))
  | scalar (text : String)
  deriving DecidableEq, Repr, Inhabited

/-- The name of a token in messages. -/
def Token.name : Token → String
  | directive _ => "<directive>"
  | documentStart => "<document start>"
  | documentEnd => "<document end>"
  | textEnd => "<stream end>"
  | blockSequenceStart => "<block sequence start>"
  | blockMappingStart => "<block mapping start>"
  | blockEnd => "<block end>"
  | flowSequenceStart => "["
  | flowSequenceEnd => "]"
  | flowMappingStart => "\x7b"
  | flowMappingEnd => "\x7d"
  | blockEntry => "-"
  | flowEntry => ","
  | key => "?"
  | value => ":"
  | reference _ => "<alias>"
  | anchor _ => "<anchor>"
  | tag _ => "<tag>"
  | scalar _ => "<scalar>"

/-- Whether a token is a directive. -/
def Token.isDirective : Token → Bool
  | directive _ => true
  | _ => false

/-- A token and the place at which it starts. -/
structure PlacedToken where
  token : Token
  start : Mark
  deriving DecidableEq, Repr, Inhabited

end GuardedInstall.Yaml
