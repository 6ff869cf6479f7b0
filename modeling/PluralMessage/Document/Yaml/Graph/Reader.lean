import PluralMessage.Document.Yaml.Graph.Basic
import PluralMessage.Document.Yaml.Lexer

/-!
Reading the graph of a document from its tokens. An alias stands for the node of its anchor, which
comes before it and may still be open.
-/
namespace PluralMessage.Document.Yaml

/-- What is left of the tokens, the error that follows them, and what was named: nodes by anchors,
and the starts of tags by handles; then the nodes so far, and how many more collections may be
open. -/
structure Source where
  tokens : List Token
  fault : ReadError
  handles : List (List Char × List Char)
  anchors : List (List Char × Nat)
  graph : Graph
  room : Nat

abbrev Reader := StateT Source (Except ReadError)

namespace Reader

def malformed {α : Type} : Reader α :=
  throw .malformed

def peek : Reader Token := do
  let source ← get
  match source.tokens with
  | token :: _ => pure token
  | [] => throw source.fault

def skip : Reader Unit :=
  modify fun source => { source with tokens := source.tokens.drop 1 }

def isAt (tokens : List Token) : Reader Bool := do
  let token ← peek
  pure (tokens.contains token)

def skipIf (token : Token) : Reader Bool := do
  let found ← isAt [token]
  if found then skip
  pure found

/-- Passes the comma in front of an item, which the first one does not have. -/
def separator (isFirst : Bool) : Reader Unit := do
  unless isFirst do
    unless ← skipIf .flowEntry do malformed

def tagUri (handle : Option (List Char)) (suffix : List Char) : Reader (List Char) := do
  match handle with
  | none => pure suffix
  | some handle =>
      match (← get).handles.lookup handle with
      | some start => pure (start ++ suffix)
      | none => malformed

/-- The anchor and the tag in front of a node, in any order. -/
def properties : Reader (Option (List Char) × Option (List Char)) := do
  match ← peek with
  | .anchor name =>
      skip
      match ← peek with
      | .tag handle suffix => do
          skip
          pure (some name, some (← tagUri handle suffix))
      | _ => pure (some name, none)
  | .tag handle suffix =>
      skip
      match ← peek with
      | .anchor name => do
          skip
          pure (some name, some (← tagUri handle suffix))
      | _ => pure (none, some (← tagUri handle suffix))
  | _ => pure (none, none)

def aliased (name : List Char) : Reader Nat := do
  match (← get).anchors.lookup name with
  | some number => pure number
  | none => malformed

/-- Adds a node, which an anchor may name. An anchor is used once only. -/
def add (anchor : Option (List Char)) (node : Node) : Reader Nat := do
  let source ← get
  let number := source.graph.size
  let anchors ← match anchor with
    | none => pure source.anchors
    | some name =>
        if (source.anchors.lookup name).isSome then malformed
        else pure ((name, number) :: source.anchors)
  modify fun source => { source with anchors, graph := source.graph.push node }
  pure number

/-- Adds a collection. Its number is known while it is read. -/
def addCollection (anchor : Option (List Char)) (read : Reader Node) : Reader Nat := do
  let number ← add anchor .empty
  match (← get).room with
  | 0 => throw (.tooDeep .other)
  | room + 1 =>
      modify fun source => { source with room }
      let node ← read
      modify fun source =>
        { source with room := room + 1, graph := source.graph.setIfInBounds number node }
      pure number

def addEmpty : Reader Nat :=
  add none .empty

/-- The tag of a scalar. A plain one without a tag has that of its text. -/
def scalarTag (uri : Option (List Char)) (codes : List Nat) (isPlain : Bool) : Tag :=
  let ofText := if codes.all Nat.isValidChar then Tag.ofText (codes.map Char.ofNat) else .text
  match uri with
  | none => if isPlain then ofText else .text
  | some uri => if uri = ['!'] then ofText else .ofUri uri

/-- The tag of a collection, which is its shape unless another one is given. -/
def collectionTag (uri : Option (List Char)) (shape : Tag) : Tag :=
  match uri with
  | none => shape
  | some uri => if uri = ['!'] then shape else .ofUri uri

/-- A node of which nothing but an anchor or a tag is there. -/
def missing (anchor uri : Option (List Char)) : Reader Nat :=
  if anchor.isNone && uri.isNone then malformed
  else add anchor (.scalar (scalarTag uri [] true) [])

mutual

/-- A node. In a block it may be a block collection, and `indentless` allows items that are not
indented. -/
def node (inBlock indentless : Bool) : (fuel : Nat) → Reader Nat
  | 0 => malformed
  | fuel + 1 => do
      match ← peek with
      | .alias name =>
          skip
          aliased name
      | _ =>
          let (anchor, uri) ← properties
          let sequence (read : Reader (List Nat)) : Reader Nat :=
            addCollection anchor do pure (.sequence (collectionTag uri .seq) (← read))
          let mapping (read : Reader (List Entry)) : Reader Nat :=
            addCollection anchor do pure (.mapping (collectionTag uri .map) (← read))
          match ← peek with
          | .scalar codes isPlain =>
              skip
              add anchor (.scalar (scalarTag uri codes isPlain) codes)
          | .flowSequenceStart =>
              skip
              sequence (flowItems true fuel)
          | .flowMappingStart =>
              skip
              mapping (flowEntries true fuel)
          | .blockSequenceStart =>
              if inBlock then
                skip
                sequence (blockItems fuel)
              else missing anchor uri
          | .blockMappingStart =>
              if inBlock then
                skip
                mapping (blockEntries fuel)
              else missing anchor uri
          | .blockEntry =>
              if indentless then sequence (indentlessItems fuel) else missing anchor uri
          | _ => missing anchor uri

/-- A node, unless one of some tokens shows that there is none. -/
def nodeUnless (ends : List Token) (inBlock indentless : Bool) : (fuel : Nat) → Reader Nat
  | 0 => malformed
  | fuel + 1 => do
      if ← isAt ends then addEmpty else node inBlock indentless fuel

def blockItems : (fuel : Nat) → Reader (List Nat)
  | 0 => malformed
  | fuel + 1 => do
      if ← skipIf .blockEntry then
        let item ← nodeUnless [.blockEntry, .blockEnd] true false fuel
        let items ← blockItems fuel
        pure (item :: items)
      else if ← skipIf .blockEnd then pure []
      else malformed

def indentlessItems : (fuel : Nat) → Reader (List Nat)
  | 0 => malformed
  | fuel + 1 => do
      if ← skipIf .blockEntry then
        let item ← nodeUnless [.blockEntry, .key, .value, .blockEnd] true false fuel
        let items ← indentlessItems fuel
        pure (item :: items)
      else pure []

def blockEntries : (fuel : Nat) → Reader (List Entry)
  | 0 => malformed
  | fuel + 1 => do
      if ← skipIf .key then
        let key ← nodeUnless [.key, .value, .blockEnd] true true fuel
        let value ←
          if ← skipIf .value then nodeUnless [.key, .value, .blockEnd] true true fuel
          else addEmpty
        let entries ← blockEntries fuel
        pure ((key, value) :: entries)
      else if ← skipIf .blockEnd then pure []
      else malformed

/-- A key after its token, and its value, inside a collection between brackets or braces. -/
def flowPair (close : Token) : (fuel : Nat) → Reader Entry
  | 0 => malformed
  | fuel + 1 => do
      let key ← nodeUnless [.value, .flowEntry, close] false false fuel
      let value ←
        if ← skipIf .value then nodeUnless [.flowEntry, close] false false fuel else addEmpty
      pure (key, value)

/-- Items up to the closing bracket. A key with its value is an item, too. -/
def flowItems (isFirst : Bool) : (fuel : Nat) → Reader (List Nat)
  | 0 => malformed
  | fuel + 1 => do
      if ← skipIf .flowSequenceEnd then pure []
      else
        separator isFirst
        if ← skipIf .key then
          let item ← addCollection none do
            pure (.mapping .map [← flowPair .flowSequenceEnd fuel])
          let items ← flowItems false fuel
          pure (item :: items)
        else if ← skipIf .flowSequenceEnd then pure []
        else
          let item ← node false false fuel
          let items ← flowItems false fuel
          pure (item :: items)

/-- Entries up to the closing brace. A node without a colon is a key without a value. -/
def flowEntries (isFirst : Bool) : (fuel : Nat) → Reader (List Entry)
  | 0 => malformed
  | fuel + 1 => do
      if ← skipIf .flowMappingEnd then pure []
      else
        separator isFirst
        if ← skipIf .key then
          let pair ← flowPair .flowMappingEnd fuel
          let entries ← flowEntries false fuel
          pure (pair :: entries)
        else if ← skipIf .flowMappingEnd then pure []
        else
          let key ← node false false fuel
          let value ← addEmpty
          let entries ← flowEntries false fuel
          pure ((key, value) :: entries)

end

def defaultHandles : List (List Char × List Char) :=
  [(['!'], ['!']), (['!', '!'], Tag.standard)]

/-- Reads the directives before a document. One version and one line for each handle are allowed. -/
def directives (hasVersion : Bool) (handles : List (List Char × List Char)) :
    (fuel : Nat) → Reader Unit
  | 0 => malformed
  | fuel + 1 => do
      match ← peek with
      | .directive (.version major) =>
          skip
          if hasVersion || major ≠ 1 then malformed else directives true handles fuel
      | .directive (.handle handle uri) =>
          skip
          if (handles.lookup handle).isSome then malformed
          else directives hasVersion ((handle, uri) :: handles) fuel
      | .directive .unknown =>
          skip
          directives hasVersion handles fuel
      | _ => modify fun source => { source with handles := handles ++ defaultHandles }

def documentStart (fuel : Nat) : Reader Unit := do
  directives false [] fuel
  if ← skipIf .documentStart then pure () else malformed

def documentEnds : (fuel : Nat) → Reader Unit
  | 0 => pure ()
  | fuel + 1 => do
      if ← skipIf .documentEnd then documentEnds fuel

/-- The root of a document, which a marker may start. -/
def root (fuel : Nat) : Reader Nat := do
  match ← peek with
  | .directive _ | .documentStart =>
      documentStart fuel
      match ← peek with
      | .directive _ | .documentStart | .documentEnd | .streamEnd => addEmpty
      | _ => node true false fuel
  | _ => node true false fuel

/-- The root of the only document, if there is one. -/
def document (fuel : Nat) : Reader (Option Nat) := do
  if ← isAt [.streamEnd] then pure none
  else
    let root ← root fuel
    documentEnds fuel
    if ← isAt [.streamEnd] then pure (some root)
    else
      documentStart fuel
      malformed

end Reader

/-- The graph of a document and its root, if there is anything in it. So many collections may be open
at once. -/
def Graph.ofDocument (room : Nat) (document : List Char) :
    Except ReadError (Graph × Option Nat) := do
  let (tokens, fault) := tokens document
  let (root, source) ← (Reader.document (3 * tokens.length + 3)).run
    ⟨tokens, fault, Reader.defaultHandles, [], #[], room⟩
  pure (source.graph, root)

end PluralMessage.Document.Yaml
