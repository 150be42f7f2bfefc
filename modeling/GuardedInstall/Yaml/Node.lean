import GuardedInstall.Table
import GuardedInstall.Yaml.Token.Lexer

/-!
# Nodes of a document

The tokens of a document are read into a tree whose leaves are texts: nothing
is taken for a number, and tags are checked and then ignored. An alias stands
for the node of its anchor, which must come before it. A mapping has texts as
keys; a key that comes twice keeps its first place and its last value. Whether
keys are texts and aliases lie outside of their nodes is told only when nothing
else is wrong with the document.
-/

namespace GuardedInstall.Yaml

/-- A node of a document. -/
inductive Node where
  | scalar (text : String)
  | sequence (items : List Node)
  | mapping (entries : List (String × Node))
  deriving Inhabited

/-- A node and the place at which it starts. -/
structure PlacedNode where
  node : Node
  start : Mark
  deriving Inhabited

/-- What an anchor names: a node that starts at a place, and is given once it has
been read. -/
structure Anchored where
  start : Mark
  node : Option Node

/-- What is known while a document is read. -/
structure Context where
  lexer : Lexer
  anchors : List (String × Anchored)
  handles : List (List Char)
  /-- The first flaw that does not end the reading. -/
  flaw : Option Flaw

/-- A step of the reading. -/
abbrev Step (α : Type) := StateT Context (Except Error) α

namespace Node

mutual

/-- Nodes are compared by what they hold. -/
def decideEq : (first second : Node) → Decidable (first = second)
  | scalar text, scalar other => decidable_of_iff (text = other) (by simp)
  | sequence items, sequence others =>
      let _ := decideEqItems items others
      decidable_of_iff (items = others) (by simp)
  | mapping entries, mapping others =>
      let _ := decideEqEntries entries others
      decidable_of_iff (entries = others) (by simp)
  | scalar _, sequence _ | scalar _, mapping _ | sequence _, scalar _
  | sequence _, mapping _ | mapping _, scalar _ | mapping _, sequence _ => isFalse (by simp)

def decideEqItems : (items others : List Node) → Decidable (items = others)
  | [], [] => isTrue rfl
  | item :: items, other :: others =>
      let _ := decideEq item other
      let _ := decideEqItems items others
      decidable_of_iff (item = other ∧ items = others) (by simp)
  | [], _ :: _ | _ :: _, [] => isFalse (by simp)

def decideEqEntries : (entries others : List (String × Node)) → Decidable (entries = others)
  | [], [] => isTrue rfl
  | (key, node) :: entries, (other, second) :: others =>
      let _ := decideEq node second
      let _ := decideEqEntries entries others
      decidable_of_iff ((key = other ∧ node = second) ∧ entries = others) (by simp)
  | [], _ :: _ | _ :: _, [] => isFalse (by simp)

end

instance : DecidableEq Node := decideEq

/-- The next token and its place. -/
def next : Step PlacedToken := do
  let context ← get
  let (token, lexer) ← context.lexer.next
  set { context with lexer }
  pure token

/-- Move over a token. -/
def skip : Step Unit :=
  modify fun context => { context with lexer := context.lexer.drop }

/-- Move over the next token if it is the given one. -/
def accept (token : Token) : Step Bool := do
  if (← next).token = token then
    skip
    pure true
  else pure false

/-- Whether the next token is one of those given. -/
def sees (tokens : List Token) : Step Bool := do
  pure (tokens.contains (← next).token)

/-- Give up with a problem that the next token is. -/
def unexpected {α : Type} (activity : Option (Activity × Mark)) (problem : Token → Problem) :
    Step α := do
  let token ← next
  throw (.malformed ⟨activity, problem token.token, token.start⟩)

/-- Move over the given token, which must come next in a construct that started
at a place. -/
def expect (token : Token) (construct : Construct) (start : Mark)
    (problem : Token → Problem) : Step Unit := do
  if !(← accept token) then unexpected (some (.parsing construct, start)) problem

/-- Note a flaw that does not end the reading. The first one counts. -/
def note (flaw : Flaw) : Step Unit :=
  modify fun context => { context with flaw := context.flaw.or (some flaw) }

/-- The node that is left out in front of the next token. -/
def emptyText : Step PlacedNode := do
  pure ⟨scalar "", (← next).start⟩

/-- What stands in front of a node: an anchor, a tag with its place, and the place
at which they start. -/
structure Properties where
  anchor : Option String
  tag : Option (Option (List Char) × Mark)
  start : Option Mark

/-- Read an anchor. -/
def anchor : Step (Option (String × Mark)) := do
  match ← next with
  | ⟨.anchor name, start⟩ =>
      skip
      pure (some (name, start))
  | _ => pure none

/-- Read a tag. -/
def tag : Step (Option (Option (List Char) × Mark)) := do
  match ← next with
  | ⟨.tag handle, start⟩ =>
      skip
      pure (some (handle, start))
  | _ => pure none

/-- Read a tag and an anchor, in either order. The handle of the tag must be
known. -/
def properties : Step Properties := do
  let first ← anchor
  let found ← tag
  let second ← if first.isNone && found.isSome then anchor else pure none
  let start := (first.map (·.2)).or (found.map (·.2))
  match found, start with
  | some (some handle, place), some start =>
      if !(← get).handles.contains handle then
        throw (.malformed ⟨some (.parsing .node, start), .handleUnknown handle, place⟩)
  | _, _ => pure ()
  pure ⟨(first.or second).map (·.1), found, start⟩

/-- Record that the node of an anchor begins. An anchor is given once. -/
def beginAnchor (name : Option String) (start : Mark) : Step Unit := do
  match name with
  | none => pure ()
  | some name =>
      match (← get).anchors.lookup name with
      | some first =>
          throw (.malformed ⟨some (.namingAgain name, first.start), .namedAgain, start⟩)
      | none =>
          modify fun context =>
            { context with anchors := (name, ⟨start, none⟩) :: context.anchors }

/-- Record the node of an anchor. -/
def endAnchor (name : Option String) (found : PlacedNode) : Step PlacedNode := do
  match name with
  | none => pure found
  | some name =>
      modify fun context =>
        { context with anchors := (name, ⟨found.start, some found.node⟩) :: context.anchors }
      pure found

/-- The node of an alias. One that lies inside of its node is noted. -/
def aliased (name : String) (start : Mark) : Step PlacedNode := do
  match (← get).anchors.lookup name with
  | some ⟨first, some node⟩ => pure ⟨node, first⟩
  | some ⟨first, none⟩ =>
      note ⟨none, .recursive, first⟩
      pure ⟨sequence [], first⟩
  | none => throw (.malformed ⟨none, .aliasUnknown name, start⟩)

/-- The text of a key of a mapping that starts at a place. A key that is no text
is noted. -/
def keyText (start : Mark) (key : PlacedNode) : Step String := do
  match key.node with
  | scalar text => pure text
  | _ =>
      note ⟨some (.constructing, start), .keyNotText, key.start⟩
      pure ""

/-- The mapping of keys and values in the order in which they come. -/
def ofPairs (pairs : List (String × Node)) : Node :=
  mapping (Table.ofList pairs)

mutual

/-- A node. Outside of brackets a block may come; after a key or a colon
entries may come without a block of their own. -/
def node : Nat → (block : Bool) → (indentless : Bool) → Step PlacedNode
  | 0, _, _ => unexpected none .expectedContent
  | fuel + 1, block, indentless => do
      match ← next with
      | ⟨.reference name, start⟩ =>
          skip
          aliased name start
      | _ =>
          let ⟨name, tag, start⟩ ← properties
          let token ← next
          let start := start.getD token.start
          let found ← match token.token with
            | .blockEntry =>
                if indentless then
                  beginAnchor name start
                  pure (some (sequence (← indentlessEntries fuel)))
                else pure none
            | .scalar text =>
                skip
                beginAnchor name start
                pure (some (scalar text))
            | .flowSequenceStart =>
                beginAnchor name start
                skip
                pure (some (sequence (← flowItems fuel token.start true)))
            | .flowMappingStart =>
                beginAnchor name start
                skip
                pure (some (ofPairs (← flowPairs fuel start token.start true)))
            | .blockSequenceStart =>
                if block then
                  beginAnchor name start
                  skip
                  pure (some (sequence (← blockEntries fuel token.start)))
                else pure none
            | .blockMappingStart =>
                if block then
                  beginAnchor name start
                  skip
                  pure (some (ofPairs (← blockPairs fuel start token.start)))
                else pure none
            | _ => pure none
          match found with
          | some found => endAnchor name ⟨found, start⟩
          | none =>
              if name.isSome || tag.isSome then
                beginAnchor name start
                endAnchor name ⟨scalar "", start⟩
              else
                unexpected (some (.parsing (if block then .blockNode else .flowNode), start))
                  .expectedContent

/-- The entries of a block that opened at a place, and its end. -/
def blockEntries : Nat → (opened : Mark) → Step (List Node)
  | 0, _ => unexpected none .expectedBlockEnd
  | fuel + 1, opened => do
      if ← accept .blockEntry then
        let first ←
          if ← sees [.blockEntry, .blockEnd] then emptyText else node fuel true false
        pure (first.node :: (← blockEntries fuel opened))
      else
        expect .blockEnd .blockSequence opened .expectedBlockEnd
        pure []

/-- Entries that have no block of their own. -/
def indentlessEntries : Nat → Step (List Node)
  | 0 => unexpected none .expectedBlockEnd
  | fuel + 1 => do
      if ← accept .blockEntry then
        let first ←
          if ← sees [.blockEntry, .key, .value, .blockEnd] then emptyText
          else node fuel true false
        pure (first.node :: (← indentlessEntries fuel))
      else pure []

/-- The keys and values of a block that opened at a place, and its end. The
mapping starts where its anchor or its tag does. -/
def blockPairs : Nat → (start : Mark) → (opened : Mark) → Step (List (String × Node))
  | 0, _, _ => unexpected none .expectedBlockEnd
  | fuel + 1, start, opened => do
      if ← accept .key then
        let key ←
          if ← sees [.key, .value, .blockEnd] then emptyText else node fuel true true
        let key ← keyText start key
        let value ←
          if ← accept .value then
            if ← sees [.key, .value, .blockEnd] then emptyText else node fuel true true
          else emptyText
        pure ((key, value.node) :: (← blockPairs fuel start opened))
      else
        expect .blockEnd .blockMapping opened .expectedBlockEnd
        pure []

/-- The items between square brackets that opened at a place, and the closing
bracket. A key and a value between them are a mapping of their own. -/
def flowItems : Nat → (opened : Mark) → (first : Bool) → Step (List Node)
  | 0, _, _ => unexpected none .expectedItem
  | fuel + 1, opened, first => do
      if ← accept .flowSequenceEnd then pure []
      else
        if !first then expect .flowEntry .flowSequence opened .expectedItem
        let token ← next
        if token.token = .key then
          skip
          let key ←
            if ← sees [.value, .flowEntry, .flowSequenceEnd] then emptyText
            else node fuel false false
          let key ← keyText token.start key
          let value ←
            if ← accept .value then
              if ← sees [.flowEntry, .flowSequenceEnd] then emptyText
              else node fuel false false
            else emptyText
          pure (ofPairs [(key, value.node)] :: (← flowItems fuel opened false))
        else if ← accept .flowSequenceEnd then pure []
        else
          let item ← node fuel false false
          pure (item.node :: (← flowItems fuel opened false))

/-- The keys and values between curly brackets that opened at a place, and the
closing bracket. A key without a colon has no text as its value. The mapping
starts where its anchor or its tag does. -/
def flowPairs : Nat → (start : Mark) → (opened : Mark) → (first : Bool) →
    Step (List (String × Node))
  | 0, _, _, _ => unexpected none .expectedPair
  | fuel + 1, start, opened, first => do
      if ← accept .flowMappingEnd then pure []
      else
        if !first then expect .flowEntry .flowMapping opened .expectedPair
        if ← accept .key then
          let key ←
            if ← sees [.value, .flowEntry, .flowMappingEnd] then emptyText
            else node fuel false false
          let key ← keyText start key
          let value ←
            if ← accept .value then
              if ← sees [.flowEntry, .flowMappingEnd] then emptyText
              else node fuel false false
            else emptyText
          pure ((key, value.node) :: (← flowPairs fuel start opened false))
        else if ← accept .flowMappingEnd then pure []
        else
          let key ← node fuel false false
          let key ← keyText start key
          pure ((key, scalar "") :: (← flowPairs fuel start opened false))

end

/-- The tag handles that are known everywhere. -/
def standardHandles : List (List Char) := [['!'], ['!', '!']]

/-- Read directives, given whether a version and which handles have been declared.
Each is declared once, and the version must be a first one. -/
def directives : Nat → (versionSeen : Bool) → (handles : List (List Char)) →
    Step (List (List Char))
  | 0, _, handles => pure handles
  | fuel + 1, versionSeen, handles => do
      match ← next with
      | ⟨.directive content, start⟩ =>
          skip
          match content with
          | .version major =>
              if versionSeen then throw (.malformed ⟨none, .versionTwice, start⟩)
              if major ≠ 1 then throw (.malformed ⟨none, .versionUnknown, start⟩)
              directives fuel true handles
          | .handle name =>
              if handles.contains name then throw (.malformed ⟨none, .handleTwice name, start⟩)
              directives fuel versionSeen (name :: handles)
          | .other => directives fuel versionSeen handles
      | _ => pure handles

/-- Read the directives of a document and the mark of its start, and give the
place of the first of them. -/
def documentStart (fuel : Nat) : Step Mark := do
  let start := (← next).start
  let handles ← directives fuel false []
  if !(← accept .documentStart) then unexpected none .expectedDocument
  modify fun context => { context with handles := handles ++ standardHandles }
  pure start

/-- A document: directives and its start mark if it has them, and its root. -/
def document (fuel : Nat) : Step PlacedNode := do
  let first := (← next).token
  if first.isDirective || first == .documentStart then
    let _ ← documentStart fuel
    let next := (← next).token
    if next.isDirective || [.documentStart, .documentEnd, .textEnd].contains next then emptyText
    else node fuel true false
  else node fuel true false

/-- Move over the marks of a document's end. -/
def skipEnds : Nat → Step Unit
  | 0 => pure ()
  | fuel + 1 => do
      if ← accept .documentEnd then skipEnds fuel

/-- The one document of a text, if it has one. What was noted is told in the
end. -/
def onlyDocument (fuel : Nat) : Step (Option Node) := do
  if (← next).token = .textEnd then pure none
  else
    let root ← document fuel
    skipEnds fuel
    if (← next).token ≠ .textEnd then
      let other ← documentStart fuel
      throw (.malformed
        ⟨some (.readingOneDocument, root.start), .anotherDocument, other⟩)
    match (← get).flaw with
    | some flaw => throw (.malformed flaw)
    | none => pure (some root.node)

/-- A number of steps that reading a text never takes. Every character gives four
tokens at most, and every token two steps. -/
def steps (text : List Char) : Nat :=
  8 * text.length + 16

end Node

/-- Read a text that holds one document at most. -/
def read (text : List Char) : Read (Option Node) :=
  match text.find? (!isAllowed ·) with
  | some c => .error (.character c (text.takeWhile isAllowed).length)
  | none =>
      ((Node.onlyDocument (Node.steps text)).run
        ⟨Lexer.start text, [], Node.standardHandles, none⟩).map (·.1)

end GuardedInstall.Yaml
