import PluralMessage.Document.Yaml.Cursor

/-!
Plain scalars, which have no quotes. They may go on in further lines.
-/
namespace PluralMessage.Document.Yaml

def isFlowSign (c : Char) : Bool :=
  [',', '[', ']', '{', '}'].contains c

def endsKey (inFlow : Bool) (s : List Char) : Bool :=
  atGap s || (inFlow && (s.head?.map isFlowSign).getD false)

/-- The characters of a plain scalar up to a gap, or up to a colon that ends a key. Between brackets
or braces the signs of a collection and a question mark end it, too. -/
def plainWord (inFlow : Bool) : List Char → List Char
  | [] => []
  | c :: s =>
      if atGap [c] || (c == ':' && endsKey inFlow s) || (inFlow && (isFlowSign c || c == '?')) then
        []
      else c :: plainWord inFlow s

def reservedStarts : List Char :=
  ['[', ']', '{', '}', ',', '#', '&', '*', '!', '|', '>', '\'', '"', '%', '@', '\x60']

def startsPlain (inFlow : Bool) : List Char → Bool
  | [] => false
  | c :: s =>
      if atGap [c] then false
      else if c == '-' then !atGap s
      else if c == '?' || c == ':' then !inFlow && !atGap s
      else !reservedStarts.contains c

/-- What separates the words of a plain scalar, whether a line end is in it, and the place after it.
Nothing separates words before a marker. -/
def plainGap (cursor : Cursor) : List Char × Bool × Cursor :=
  let (spaces, after) := cursor.takeWhile isSpace
  match after.takeBreak? with
  | none => (spaces, false, after)
  | some _ =>
      let (signs, after) := after.takeBreaks isSpace after.rest.length
      (if after.atMarker then [] else foldBreaks signs, true, after)

/-- A plain scalar from a word on, whether a line end follows it, and the next place that holds
something. `gap` is what stands before the word. -/
def plainFrom (inFlow : Bool) (least : Int) : (fuel : Nat) → (gap : List Char) → (broke : Bool) →
    Cursor → List Char × Bool × Cursor
  | 0, _, broke, cursor => ([], broke, cursor)
  | fuel + 1, gap, broke, cursor =>
      let word := plainWord inFlow cursor.rest
      if word.isEmpty || cursor.rest.head? == some '#' then ([], broke, cursor)
      else
        let (next, broke, after) := plainGap (cursor.pass word.length)
        if next.isEmpty || (!inFlow && after.column < least) then (gap ++ word, broke, after)
        else
          let (text, last) := plainFrom inFlow least fuel next broke after
          (gap ++ word ++ text, last)

/-- A plain scalar. Outside of brackets and braces it goes on in lines that are indented at least to
a column. -/
def readPlain (inFlow : Bool) (least : Int) (cursor : Cursor) : List Char × Bool × Cursor :=
  plainFrom inFlow least cursor.rest.length [] false cursor

end PluralMessage.Document.Yaml
