import PluralMessage.Document.Step
import PluralMessage.Document.Yaml.Cursor

/-!
Quoted scalars of YAML. Between single quotes a quote is written twice; between double quotes a
backslash starts an escape. Both may go on over line ends.
-/
namespace PluralMessage.Document.Yaml

def simpleEscape? (c : Char) : Option Nat :=
  [('0', 0x00), ('a', 0x07), ('b', 0x08), ('t', 0x09), ('\t', 0x09), ('n', 0x0A), ('v', 0x0B),
    ('f', 0x0C), ('r', 0x0D), ('e', 0x1B), (' ', 0x20), ('"', 0x22), ('\\', 0x5C), ('/', 0x2F),
    ('N', 0x85), ('_', 0xA0), ('L', 0x2028), ('P', 0x2029)].lookup c

def escapeWidth? : Char → Option Nat
  | 'x' => some 2
  | 'u' => some 4
  | 'U' => some 8
  | _ => none

/-- The last code point is `0x10FFFF`. -/
def checkCode (n : Nat) : Except ReadError Nat :=
  if n < 0x110000 then .ok n
  else if n < 0x80000000 then .error (.noValue .character)
  else .error (.noValue .farCharacter)

/-- The line ends from a place on, which no marker may follow. -/
def quotedBreaks (cursor : Cursor) : Except ReadError (List Char × Cursor) :=
  let (signs, after) := cursor.takeBreaks isSpaceOrTab cursor.rest.length
  if after.atMarker then .error .malformed else .ok (signs, after)

/-- What an escape stands for, from after its backslash. One before a line end joins the lines. -/
def readEscape (cursor : Cursor) : Except ReadError (List Nat × Cursor) :=
  match cursor.rest with
  | [] => .error .malformed
  | c :: s =>
      match simpleEscape? c, escapeWidth? c with
      | some code, _ => .ok ([code], cursor.pass 1)
      | none, some width => do
          let (n, _) ← readHex width s
          let code ← checkCode n
          pure ([code], cursor.pass (width + 1))
      | none, none => do
          if isBreak c then
            let (signs, after) ← quotedBreaks cursor
            pure ((signs.drop 1).map Char.toNat, after)
          else .error .malformed

def readGap (cursor : Cursor) : Except ReadError (List Char × Cursor) :=
  let (blanks, after) := cursor.takeWhile isSpaceOrTab
  if after.rest.isEmpty then .error .malformed
  else if atLineEnd after.rest then do
    let (signs, after) ← quotedBreaks after
    pure (foldBreaks signs, after)
  else .ok (blanks, after)

/-- The code points of a quoted scalar from after its opening quote, and the place after its closing
one. -/
def readQuoted (quote : Char) : (fuel : Nat) → Cursor → Except ReadError (List Nat × Cursor)
  | 0, _ => .error .malformed
  | fuel + 1, cursor =>
      match cursor.rest with
      | [] => .error .malformed
      | c :: s =>
          if c = quote && !(quote == '\'' && s.head? == some quote) then .ok ([], cursor.pass 1)
          else do
            let (front, after) ←
              if c = quote then pure ([quote.toNat], cursor.pass 2)
              else if c = '\\' && quote == '"' then readEscape (cursor.pass 1)
              else if atGap [c] then do
                let (gap, after) ← readGap cursor
                pure (gap.map Char.toNat, after)
              else pure ([c.toNat], cursor.pass 1)
            let (more, after) ← readQuoted quote fuel after
            pure (front ++ more, after)

end PluralMessage.Document.Yaml
