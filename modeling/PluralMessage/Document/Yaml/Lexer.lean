import PluralMessage.Document.Yaml.Block
import PluralMessage.Document.Yaml.Name
import PluralMessage.Document.Yaml.Plain
import PluralMessage.Document.Yaml.Quoted

/-!
Splitting a YAML document into tokens. What is a key shows only at the colon after it: until then
its first token is kept in mind, and the token that announces a key is put in front of it later.
Such a key stands in one line and is not longer than `maxKey` characters.

The tokens that come before an error are given with it, but for those that may still turn out to
start a key.
-/
namespace PluralMessage.Document.Yaml

/-- The longest key that nothing announces. -/
def maxKey : Nat := 1024

/-- A token that may start a key, and where it stands. Where the items of a mapping start, one that
does not is an error. -/
structure PossibleKey where
  number : Nat
  isRequired : Bool
  start : Cursor

/-- The state between two tokens. The tokens are in reverse; a possible key is kept for each depth
of brackets and braces, and a column for each block collection. -/
structure Lexer where
  cursor : Cursor
  tokens : List Token
  count : Nat
  depth : Nat
  indent : Int
  outerIndents : List Int
  mayStartKey : Bool
  keys : List (Nat × PossibleKey)

namespace Lexer

def start (document : List Char) : Lexer where
  cursor := .start document
  tokens := []
  count := 0
  depth := 0
  indent := -1
  outerIndents := []
  mayStartKey := true
  keys := []

def inFlow (lexer : Lexer) : Bool :=
  0 < lexer.depth

def push (lexer : Lexer) (token : Token) : Lexer :=
  { lexer with tokens := token :: lexer.tokens, count := lexer.count + 1 }

def insert (lexer : Lexer) (number : Nat) (token : Token) : Lexer :=
  let (later, earlier) := lexer.tokens.splitAt (lexer.count - number)
  { lexer with tokens := later ++ token :: earlier, count := lexer.count + 1 }

def moveTo (lexer : Lexer) (cursor : Cursor) : Lexer :=
  { lexer with cursor := cursor }

def allowKey (lexer : Lexer) (mayStartKey : Bool) : Lexer :=
  { lexer with mayStartKey := mayStartKey }

def isStale (lexer : Lexer) (key : PossibleKey) : Bool :=
  key.start.line != lexer.cursor.line || maxKey < lexer.cursor.passed - key.start.passed

def dropStale (lexer : Lexer) : Except ReadError Lexer :=
  let (stale, kept) := lexer.keys.partition fun (_, key) => lexer.isStale key
  if stale.any fun (_, key) => key.isRequired then .error .malformed
  else .ok { lexer with keys := kept }

def dropKey (lexer : Lexer) : Except ReadError Lexer :=
  match lexer.keys.lookup lexer.depth with
  | some key =>
      if key.isRequired then .error .malformed
      else .ok { lexer with keys := lexer.keys.filter fun (depth, _) => depth != lexer.depth }
  | none => .ok lexer

def keepKey (lexer : Lexer) : Except ReadError Lexer :=
  if lexer.mayStartKey then do
    let isRequired := !lexer.inFlow && lexer.indent == lexer.cursor.column
    let lexer ← lexer.dropKey
    pure { lexer with
      keys := (lexer.depth, ⟨lexer.count, isRequired, lexer.cursor⟩) :: lexer.keys }
  else .ok lexer

/-- Ends the block collections that are indented more than a column. -/
def unwindTo (column : Int) (lexer : Lexer) : List Int → Lexer
  | [] => lexer
  | outer :: more =>
      if column < lexer.indent then
        unwindTo column { lexer.push .blockEnd with indent := outer, outerIndents := more } more
      else lexer

def unwind (lexer : Lexer) (column : Int) : Lexer :=
  if lexer.inFlow then lexer else unwindTo column lexer lexer.outerIndents

/-- Starts a block collection before a token, if a column is indented more than the last one. -/
def openBlock (lexer : Lexer) (column : Nat) (number : Nat) (token : Token) : Lexer :=
  if lexer.indent < column then
    { lexer.insert number token with
      indent := column
      outerIndents := lexer.indent :: lexer.outerIndents }
  else lexer

/-- Passes spaces, comments and line ends. A key may stand at the start of a line. -/
def skip : (fuel : Nat) → Lexer → Lexer
  | 0, lexer => lexer
  | fuel + 1, lexer =>
      let after := (lexer.cursor.passWhile isSpace).passComment
      match after.takeBreak? with
      | some (_, after) =>
          skip fuel ((lexer.moveTo after).allowKey (lexer.mayStartKey || !lexer.inFlow))
      | none => lexer.moveTo after

def single (lexer : Lexer) (token : Token) : Lexer :=
  (lexer.moveTo (lexer.cursor.pass 1)).push token

def marker (lexer : Lexer) (token : Token) : Except ReadError Lexer := do
  let lexer ← (lexer.unwind (-1)).dropKey
  pure (((lexer.allowKey false).moveTo (lexer.cursor.pass 3)).push token)

def directive (lexer : Lexer) : Except ReadError Lexer := do
  let lexer ← (lexer.unwind (-1)).dropKey
  let (directive, after) ← readDirective lexer.cursor
  pure (((lexer.allowKey false).moveTo after).push (.directive directive))

def openFlow (lexer : Lexer) (token : Token) : Except ReadError Lexer := do
  let lexer ← lexer.keepKey
  pure (({ lexer with depth := lexer.depth + 1 }.allowKey true).single token)

def closeFlow (lexer : Lexer) (token : Token) : Except ReadError Lexer := do
  let lexer ← lexer.dropKey
  pure (({ lexer with depth := lexer.depth - 1 }.allowKey false).single token)

def flowEntry (lexer : Lexer) : Except ReadError Lexer := do
  let lexer ← lexer.dropKey
  pure ((lexer.allowKey true).single .flowEntry)

/-- Starts a block collection at a sign, which must stand where a key may. -/
def openAtSign (lexer : Lexer) (token : Token) : Except ReadError Lexer :=
  if lexer.inFlow then .ok lexer
  else if lexer.mayStartKey then .ok (lexer.openBlock lexer.cursor.column lexer.count token)
  else .error .malformed

def blockEntry (lexer : Lexer) : Except ReadError Lexer := do
  let lexer ← lexer.openAtSign .blockSequenceStart
  let lexer ← lexer.dropKey
  pure ((lexer.allowKey true).single .blockEntry)

def explicitKey (lexer : Lexer) : Except ReadError Lexer := do
  let lexer ← lexer.openAtSign .blockMappingStart
  let lexer ← lexer.dropKey
  pure ((lexer.allowKey !lexer.inFlow).single .key)

/-- The colon after a key. If there is a possible key, it is one. -/
def value (lexer : Lexer) : Except ReadError Lexer :=
  match lexer.keys.lookup lexer.depth with
  | some key =>
      let keys := lexer.keys.filter fun (depth, _) => depth != lexer.depth
      let lexer := { lexer with keys := keys }.insert key.number .key
      let lexer := if lexer.inFlow then lexer
        else lexer.openBlock key.start.column key.number .blockMappingStart
      .ok ((lexer.allowKey false).single .value)
  | none => do
      let lexer ← lexer.openAtSign .blockMappingStart
      let lexer ← lexer.dropKey
      pure ((lexer.allowKey !lexer.inFlow).single .value)

/-- A token that may start a key. -/
def content (lexer : Lexer) (read : Cursor → Except ReadError (Token × Cursor)) :
    Except ReadError Lexer := do
  let lexer ← lexer.keepKey
  let (token, after) ← read lexer.cursor
  pure (((lexer.allowKey false).moveTo after).push token)

def blockScalar (lexer : Lexer) (folded : Bool) : Except ReadError Lexer := do
  let lexer ← lexer.dropKey
  let (text, after) ← readBlock folded lexer.indent (lexer.cursor.pass 1)
  pure (((lexer.allowKey true).moveTo after).push (.scalar (text.map Char.toNat) false))

def quotedScalar (lexer : Lexer) (quote : Char) : Except ReadError Lexer :=
  lexer.content fun cursor => do
    let (codes, after) ← readQuoted quote cursor.rest.length (cursor.pass 1)
    pure (.scalar codes false, after)

/-- A plain scalar. A key may follow it if a line end does. -/
def plainScalar (lexer : Lexer) : Except ReadError Lexer := do
  let lexer ← lexer.keepKey
  let (text, broke, after) := readPlain lexer.inFlow (lexer.indent + 1) lexer.cursor
  pure (((lexer.allowKey broke).moveTo after).push (.scalar (text.map Char.toNat) true))

def anchor (lexer : Lexer) (token : List Char → Token) : Except ReadError Lexer :=
  lexer.content fun cursor => do
    let (name, after) ← readName (cursor.pass 1)
    pure (token name, after)

def token (lexer : Lexer) (c : Char) (s : List Char) : Except ReadError Lexer :=
  let atStart := lexer.cursor.column == 0
  if atStart && c == '%' then lexer.directive
  else if atStart && startsMarker '-' (c :: s) then lexer.marker .documentStart
  else if atStart && startsMarker '.' (c :: s) then lexer.marker .documentEnd
  else if c == '[' then lexer.openFlow .flowSequenceStart
  else if c == '{' then lexer.openFlow .flowMappingStart
  else if c == ']' then lexer.closeFlow .flowSequenceEnd
  else if c == '}' then lexer.closeFlow .flowMappingEnd
  else if c == ',' then lexer.flowEntry
  else if c == '-' && atGap s then lexer.blockEntry
  else if c == '?' && (lexer.inFlow || atGap s) then lexer.explicitKey
  else if c == ':' && (lexer.inFlow || atGap s) then lexer.value
  else if c == '*' then lexer.anchor .alias
  else if c == '&' then lexer.anchor .anchor
  else if c == '!' then lexer.content readTag
  else if c == '|' && !lexer.inFlow then lexer.blockScalar false
  else if c == '>' && !lexer.inFlow then lexer.blockScalar true
  else if c == '\'' || c == '"' then lexer.quotedScalar c
  else if startsPlain lexer.inFlow (c :: s) then lexer.plainScalar
  else .error .malformed

/-- The next tokens, or the state after the last one. -/
def step (lexer : Lexer) : Except ReadError (Lexer ⊕ Lexer) := do
  let lexer ← (lexer.skip (lexer.cursor.rest.length + 1)).dropStale
  let lexer := lexer.unwind lexer.cursor.column
  match lexer.cursor.rest with
  | [] => do
      let lexer ← (lexer.unwind (-1)).dropKey
      pure (.inr (lexer.push .streamEnd))
  | c :: s => do
      let lexer ← lexer.token c s
      pure (.inl lexer)

/-- The tokens before the first one that may still start a key. -/
def settled (lexer : Lexer) : List Token :=
  let keys := lexer.keys.filter fun (_, key) => !lexer.isStale key
  let number := keys.foldl (fun least (_, key) => min least key.number) lexer.count
  lexer.tokens.reverse.take number

def run : (fuel : Nat) → Lexer → List Token × ReadError
  | 0, lexer => (lexer.settled, .malformed)
  | fuel + 1, lexer =>
      match lexer.step with
      | .ok (.inl lexer) => run fuel lexer
      | .ok (.inr lexer) => (lexer.tokens.reverse, .malformed)
      | .error e => (lexer.settled, e)

end Lexer

/-- The tokens of a document, and the error that follows if they do not end it. -/
def tokens (document : List Char) : List Token × ReadError :=
  (Lexer.start document).run (document.length + 2)

end PluralMessage.Document.Yaml
