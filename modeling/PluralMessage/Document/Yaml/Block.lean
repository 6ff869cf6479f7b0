import PluralMessage.Document.Step
import PluralMessage.Document.Yaml.Cursor

/-!
Block scalars, whose text is made of the indented lines below a header. In a literal one the line
ends stand for themselves; in a folded one they are folded between lines that start with text.
-/
namespace PluralMessage.Document.Yaml

/-- What is kept of the line ends after the last line of a block scalar. -/
inductive Chomp
  | strip
  | clip
  | keep
deriving DecidableEq, Repr

def chomp? : Char → Option Chomp
  | '-' => some .strip
  | '+' => some .keep
  | _ => none

/-- The indentation that a header gives; there is none of zero. -/
def indentation? (c : Char) : Option Nat :=
  if c.isDigit then some (c.toNat - '0'.toNat) else none

def headerSigns (s : List Char) : Chomp × Option Nat × Nat :=
  match s with
  | c :: more =>
      match chomp? c, indentation? c with
      | some chomp, _ =>
          match more.head?.bind indentation? with
          | some n => (chomp, some n, 2)
          | none => (chomp, none, 1)
      | none, some n =>
          match more.head?.bind chomp? with
          | some chomp => (chomp, some n, 2)
          | none => (.clip, some n, 1)
      | none, none => (.clip, none, 0)
  | [] => (.clip, none, 0)

/-- The header of a block scalar after its first sign, with its line end and a comment. -/
def readHeader (cursor : Cursor) : Except ReadError (Chomp × Option Nat × Cursor) :=
  let (chomp, indentation, n) := headerSigns cursor.rest
  let after := cursor.pass n
  let last := (after.passWhile isSpace).passComment
  if indentation == some 0 || !atSpace after.rest || !atLineEnd last.rest then .error .malformed
  else .ok (chomp, indentation, (last.takeBreak?.map Prod.snd).getD last)

/-- The empty lines at the start of a block scalar, and the greatest column that spaces lead to in
them and in the line after them. -/
def leadingBreaks : (fuel : Nat) → (greatest : Nat) → Cursor → List Char × Nat × Cursor
  | 0, greatest, cursor => ([], greatest, cursor)
  | fuel + 1, greatest, cursor =>
      let after := cursor.passWhile isSpace
      let greatest := max greatest after.column
      match after.takeBreak? with
      | some (sign, after) =>
          let (signs, greatest, after) := leadingBreaks fuel greatest after
          (sign :: signs, greatest, after)
      | none => ([], greatest, after)

def passIndent (column : Nat) (cursor : Cursor) : Cursor :=
  cursor.pass (min (cursor.rest.takeWhile isSpace).length (column - cursor.column))

/-- The empty lines at a place, with spaces up to a column in them and after them. -/
def indentedBreaks (column : Nat) : (fuel : Nat) → Cursor → List Char × Cursor
  | 0, cursor => ([], cursor)
  | fuel + 1, cursor =>
      let after := passIndent column cursor
      match after.takeBreak? with
      | some (sign, after) =>
          let (signs, after) := indentedBreaks column fuel after
          (sign :: signs, after)
      | none => ([], after)

def startsText (cursor : Cursor) : Bool :=
  !(cursor.rest.head?.map isSpaceOrTab).getD false

/-- The text of the lines in a column up to the last, its line end, the empty lines after it and the
place that follows. `breaks` are the empty lines before the first. -/
def blockLines (folded : Bool) (column : Nat) : (fuel : Nat) → (breaks : List Char) → Cursor →
    List Char × List Char × List Char × Cursor
  | 0, breaks, cursor => ([], [], breaks, cursor)
  | fuel + 1, breaks, cursor =>
      if cursor.column != column || cursor.rest.isEmpty then ([], [], breaks, cursor)
      else
        let (line, after) := cursor.takeWhile fun c => !isBreak c
        let (sign, after) := match after.takeBreak? with
          | some (sign, after) => ([sign], after)
          | none => ([], after)
        let (next, after) := indentedBreaks column after.rest.length after
        if after.column != column || after.rest.isEmpty then (breaks ++ line, sign, next, after)
        else
          let join := if folded && sign == ['\n'] && startsText cursor && startsText after then
              (if next.isEmpty then [' '] else [])
            else sign
          let (text, last) := blockLines folded column fuel next after
          (breaks ++ line ++ join ++ text, last)

/-- A block scalar after its first sign, inside a collection that is indented to a column. -/
def readBlock (folded : Bool) (indent : Int) (cursor : Cursor) :
    Except ReadError (List Char × Cursor) := do
  let (chomp, indentation, first) ← readHeader cursor
  let least := (max (indent + 1) 1).toNat
  let (breaks, column, first) := match indentation with
    | some n =>
        let column := least + n - 1
        let (breaks, first) := indentedBreaks column (first.rest.length + 1) first
        (breaks, column, first)
    | none =>
        let (breaks, greatest, first) := leadingBreaks (first.rest.length + 1) 0 first
        (breaks, max least greatest, first)
  let (text, sign, breaks, after) := blockLines folded column (first.rest.length + 1) breaks first
  match chomp with
  | .strip => pure (text, after)
  | .clip => pure (text ++ sign, after)
  | .keep => pure (text ++ sign ++ breaks, after)

end PluralMessage.Document.Yaml
