import PluralMessage.Text.Quoted

/-!
Lists of flat records as JSON, in ASCII and with two spaces to a level.
-/
namespace PluralMessage.Document.Json

inductive Field
  | null
  | number (n : Nat)
  | text (s : String)

def escapeUnit (n : Nat) : List Char :=
  '\\' :: 'u' :: Text.hexDigits 4 n

/-- A character inside a JSON string, in ASCII. -/
def escapeChar (c : Char) : List Char :=
  let n := c.toNat
  if c = '"' || c = '\\' then ['\\', c]
  else if c = '\n' then ['\\', 'n']
  else if c = '\r' then ['\\', 'r']
  else if c = '\t' then ['\\', 't']
  else if n = 0x0C then ['\\', 'f']
  else if n = 0x08 then ['\\', 'b']
  else if 0x20 ≤ n && n < 0x7F then [c]
  else if n < 0x10000 then escapeUnit n
  else escapeUnit (0xD800 + (n - 0x10000) / 0x400) ++ escapeUnit (0xDC00 + (n - 0x10000) % 0x400)

def printText (s : String) : List Char :=
  '"' :: s.toList.flatMap escapeChar ++ ['"']

def Field.print : Field → List Char
  | null => "null".toList
  | number n => Nat.toDigits 10 n
  | text s => printText s

/-- Items on lines of their own, with commas between them. -/
def printLines (indent : Nat) (items : List (List Char)) : List Char :=
  let start := '\n' :: List.replicate indent ' '
  [','].intercalate (items.map (start ++ ·))

def printRecord (fields : List (String × Field)) : List Char :=
  let items := fields.map fun (name, field) => printText name ++ [':', ' '] ++ field.print
  '\x7b' :: printLines 4 items ++ ['\n', ' ', ' ', '\x7d']

/-- A list of records as JSON, two spaces to a level. -/
def printRecords (records : List (List (String × Field))) : List Char :=
  if records.isEmpty then ['[', ']']
  else '[' :: printLines 2 (records.map printRecord) ++ ['\n', ']']

end PluralMessage.Document.Json
