import PluralMessage.Document.Step
import PluralMessage.Document.Yaml.Cursor
import PluralMessage.Document.Yaml.Token

/-!
Names in YAML: anchors and the aliases that refer to them, tags, and directives.
-/
namespace PluralMessage.Document.Yaml

def isNameChar (c : Char) : Bool :=
  c.isAlphanum || c == '-' || c == '_'

def readName (cursor : Cursor) : Except ReadError (List Char × Cursor) :=
  let (name, after) := cursor.takeWhile isNameChar
  let ends := match after.rest with
    | c :: _ => atGap [c] || ['?', ':', ',', ']', '}', '%', '@', '\x60'].contains c
    | [] => true
  if name.isEmpty || !ends then .error .malformed else .ok (name, after)

def isUriChar (c : Char) : Bool :=
  isNameChar c || [';', '/', '?', ':', '@', '&', '=', '+', '$', ',', '.', '!', '~', '*', '\'', '(',
    ')', '[', ']'].contains c

def uriBytes : (fuel : Nat) → Cursor → Except ReadError (List UInt8 × Cursor)
  | 0, cursor => .ok ([], cursor)
  | fuel + 1, cursor =>
      match cursor.rest with
      | '%' :: s => do
          let (n, _) ← readHex 2 s
          let (bytes, after) ← uriBytes fuel (cursor.pass 3)
          pure (n.toUInt8 :: bytes, after)
      | _ => .ok ([], cursor)

/-- The characters of an address, with the bytes of its escapes decoded. -/
def uriChars : (fuel : Nat) → Cursor → Except ReadError (List Char × Cursor)
  | 0, cursor => .ok ([], cursor)
  | fuel + 1, cursor =>
      match cursor.rest with
      | '%' :: _ => do
          let (bytes, after) ← uriBytes cursor.rest.length cursor
          match String.fromUTF8? ⟨bytes.toArray⟩ with
          | some s => do
              let (more, after) ← uriChars fuel after
              pure (s.toList ++ more, after)
          | none => .error .malformed
      | c :: _ =>
          if isUriChar c then do
            let (more, after) ← uriChars fuel (cursor.pass 1)
            pure (c :: more, after)
          else .ok ([], cursor)
      | [] => .ok ([], cursor)

/-- An address, which is not empty. -/
def readUri (cursor : Cursor) : Except ReadError (List Char × Cursor) := do
  let (uri, after) ← uriChars cursor.rest.length cursor
  if after.rest.length < cursor.rest.length then pure (uri, after) else .error .malformed

/-- The handle of a tag: a sign, or a name between two signs. -/
def readHandle (cursor : Cursor) : Except ReadError (List Char × Cursor) :=
  match cursor.rest with
  | '!' :: s =>
      if s.head? == some ' ' then .ok (['!'], cursor.pass 1)
      else
        let (name, after) := (cursor.pass 1).takeWhile isNameChar
        if after.rest.head? == some '!' then .ok ('!' :: name ++ ['!'], after.pass 1)
        else .error .malformed
  | _ => .error .malformed

def requireSpace (cursor : Cursor) : Except ReadError Unit :=
  if atSpace cursor.rest then .ok () else .error .malformed

/-- A tag from its sign on. It is written out between angle brackets, or starts with a handle. -/
def readTag (cursor : Cursor) : Except ReadError (Token × Cursor) := do
  let s := cursor.rest.drop 1
  let (token, after) ←
    if s.head? == some '<' then do
      let (uri, after) ← readUri (cursor.pass 2)
      if after.rest.head? == some '>' then pure (Token.tag none uri, after.pass 1)
      else .error .malformed
    else if atGap s then pure (Token.tag none ['!'], cursor.pass 1)
    else do
      let isNamed := (s.takeWhile fun c => !atSpace [c]).contains '!'
      let (handle, after) ← if isNamed then readHandle cursor else pure (['!'], cursor.pass 1)
      let (suffix, after) ← readUri after
      pure (Token.tag (some handle) suffix, after)
  requireSpace after
  pure (token, after)

/-- The two numbers of a version; the first one counts. -/
def readVersion (cursor : Cursor) : Except ReadError (Directive × Cursor) := do
  let (major, after) := (cursor.passWhile isSpace).takeWhile Char.isDigit
  let (minor, last) := (after.pass 1).takeWhile Char.isDigit
  if major.isEmpty then .error .malformed
  else
    let n ← readNat major
    if after.rest.head? != some '.' || minor.isEmpty then .error .malformed
    else
      let _ ← readNat minor
      requireSpace last
      pure (.version n, last)

def readHandleDirective (cursor : Cursor) : Except ReadError (Directive × Cursor) := do
  let (handle, after) ← readHandle (cursor.passWhile isSpace)
  if after.rest.head? != some ' ' then .error .malformed
  else
    let (uri, last) ← readUri (after.passWhile isSpace)
    requireSpace last
    pure (.handle handle uri, last)

def readDirective (cursor : Cursor) : Except ReadError (Directive × Cursor) := do
  let (name, after) := (cursor.pass 1).takeWhile isNameChar
  if name.isEmpty then .error .malformed
  else
    requireSpace after
    let (directive, after) ←
      if name = "YAML".toList then readVersion after
      else if name = "TAG".toList then readHandleDirective after
      else pure (.unknown, after.passWhile fun c => !isBreak c)
    let last := (after.passWhile isSpace).passComment
    if atLineEnd last.rest then pure (directive, (last.takeBreak?.map Prod.snd).getD last)
    else .error .malformed

end PluralMessage.Document.Yaml
