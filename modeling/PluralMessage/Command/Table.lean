/-!
Tables that commands write: a title, a head between heavy lines, and rows in columns as wide as
their widest cell.
-/
namespace PluralMessage.Command

structure Column where
  title : String
  alignRight : Bool

def pad (alignRight : Bool) (width : Nat) (s : List Char) : List Char :=
  let space := List.replicate (width - s.length) ' '
  if alignRight then space ++ s else s ++ space

/-- The width of each column: that of its widest cell. -/
def widths (columns : List Column) (rows : List (List String)) : List Nat :=
  columns.zipIdx.map fun (column, k) =>
    rows.foldl (fun width row => max width (row.getD k "").length) column.title.length

def rule (first dash cross last : Char) (widths : List Nat) : List Char :=
  let dashes := widths.map fun width => List.replicate (width + 2) dash
  first :: [cross].intercalate dashes ++ [last]

def tableRow (side : Char) (columns : List Column) (widths : List Nat) (cells : List String) :
    List Char :=
  let padded := (columns.zip (widths.zip cells)).map fun (column, width, cell) =>
    ' ' :: pad column.alignRight width cell.toList ++ [' ']
  side :: [side].intercalate padded ++ [side]

/-- A text in the middle of a width; an odd space goes behind it. -/
def center (width : Nat) (s : List Char) : List Char :=
  let space := width - s.length
  List.replicate (space / 2) ' ' ++ s ++ List.replicate (space - space / 2) ' '

/-- A table under its title, with heavy lines around the head. -/
def table (title : String) (columns : List Column) (rows : List (List String)) : List Char :=
  let widths := widths columns rows
  let head := rule '┏' '━' '┳' '┓' widths
  let lines :=
    [center head.length title.toList, head,
      tableRow '┃' columns widths (columns.map Column.title), rule '┡' '━' '╇' '┩' widths] ++
    rows.map (tableRow '│' columns widths) ++ [rule '└' '─' '┴' '┘' widths]
  lines.flatMap (· ++ ['\n'])

end PluralMessage.Command
