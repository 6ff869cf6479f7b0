import PluralMessage.Binary64.Shortest
import PluralMessage.Entries
import PluralMessage.Moment
import PluralMessage.Quantity
import PluralMessage.Text.Quoted

/-!
Values of any type, as callers pass them and settings files hold them. A value has a written form,
which shows its type, and a text, which is the written form but for texts themselves. A value that
holds a number of too many digits has neither. Writing a value may also be limited to so many levels
of nesting.

Texts are made of characters, so no text holds a surrogate without its other half.
-/
namespace PluralMessage

/-- A value; `again` stands in a list or map for the list or map itself. -/
inductive Value
  | null
  | bool (b : Bool)
  | int (n : Int)
  | real (x : Binary64)
  | text (s : String)
  | bytes (bytes : List UInt8)
  | moment (m : Moment)
  | list (items : List Value)
  | tuple (items : List Value)
  | set (items : List Value)
  | map (entries : List (Value × Value))
  | again (isMap : Bool)

namespace Value

def kind : Value → String
  | null => "NoneType"
  | bool _ => "bool"
  | int _ => "int"
  | real _ => "float"
  | text _ => "str"
  | bytes _ => "bytes"
  | moment m => m.kind
  | list _ | again false => "list"
  | tuple _ => "tuple"
  | set _ => "set"
  | map _ | again true => "dict"

mutual

/-- The written form, in which texts are quoted. -/
def written : Value → Option (List Char)
  | null => some "None".toList
  | bool true => some "True".toList
  | bool false => some "False".toList
  | int n => Decimal.ofInt? n
  | real x => some x.print
  | text s => some (Text.quote s.toList)
  | bytes b => some (Text.quoteBytes b)
  | moment m => some m.written
  | list items => (writtenItems items).map fun s => '[' :: s ++ [']']
  | tuple [item] => item.written.map fun s => '(' :: s ++ [',', ')']
  | tuple items => (writtenItems items).map fun s => '(' :: s ++ [')']
  | set [] => some "set()".toList
  | set items => (writtenItems items).map fun s => '{' :: s ++ ['}']
  | map entries => (writtenEntries entries).map fun s => '{' :: s ++ ['}']
  | again false => some "[...]".toList
  | again true => some ['{', '.', '.', '.', '}']

def writtenItems : List Value → Option (List Char)
  | [] => some []
  | [item] => item.written
  | item :: items => do
      let first ← item.written
      let more ← writtenItems items
      pure (first ++ ", ".toList ++ more)

def writtenEntries : List (Value × Value) → Option (List Char)
  | [] => some []
  | [(key, item)] => do
      let k ← key.written
      let v ← item.written
      pure (k ++ ": ".toList ++ v)
  | (key, item) :: entries => do
      let k ← key.written
      let v ← item.written
      let more ← writtenEntries entries
      pure (k ++ ": ".toList ++ v ++ ", ".toList ++ more)

end

/-- The text of a value, as it is inserted into a message. -/
def chars? : Value → Option (List Char)
  | text s => some s.toList
  | v => v.written

/-- What keeps a value from being written: a number of too many digits, or too much nesting. -/
inductive Obstacle
  | tooLarge
  | tooDeep
deriving DecidableEq, Repr

def Obstacle.message : Obstacle → String
  | tooLarge => Decimal.tooLargeMessage
  | tooDeep => "maximum recursion depth exceeded while getting the repr of an object"

mutual

/-- What comes first in the way of writing a value in which so many levels may nest. Items of a set
are two levels below it, as those of a list that it is written through. -/
def obstacle? : Value → (room : Nat) → Option Obstacle
  | int n, _ => if (Decimal.ofInt? n).isSome then none else some .tooLarge
  | moment m, room => if m.depth ≤ room then none else some .tooDeep
  | list items, room | tuple items, room => obstacleInItems? items 1 room
  | set items, room => obstacleInItems? items 2 room
  | map entries, room => obstacleInEntries? entries room
  | _, _ => none

def obstacleInItems? : List Value → (levels room : Nat) → Option Obstacle
  | [], _, _ => none
  | item :: items, levels, room =>
      if room < levels then some .tooDeep
      else
        match item.obstacle? (room - levels) with
        | some e => some e
        | none => obstacleInItems? items levels room

def obstacleInEntries? : List (Value × Value) → (room : Nat) → Option Obstacle
  | [], _ => none
  | (_, _) :: _, 0 => some .tooDeep
  | (key, item) :: entries, room + 1 =>
      match key.obstacle? room, item.obstacle? room with
      | some e, _ => some e
      | none, some e => some e
      | none, none => obstacleInEntries? entries (room + 1)

end

/-- The written form of a value in which so many levels may nest. -/
def writtenIn (room : Nat) (v : Value) : Except Obstacle (List Char) :=
  match v.obstacle? room, v.written with
  | none, some s => .ok s
  -- With nothing in the way a value is written, so this does not occur.
  | none, none => .error .tooLarge
  | some e, _ => .error e

/-- The text of a value in which so many levels may nest. -/
def charsIn? (room : Nat) (v : Value) : Option (List Char) :=
  if (v.obstacle? room).isNone then v.chars? else none

/-- Whether a value counts as absent: null, false, zero, or empty. -/
def isEmpty : Value → Bool
  | null => true
  | bool b => !b
  | int n => n == 0
  | real x => x.isZero
  | text s => s.isEmpty
  | bytes b => b.isEmpty
  | list items | tuple items | set items => items.isEmpty
  | map entries => entries.isEmpty
  | moment _ | again _ => false

def isText : Value → Bool
  | text _ => true
  | _ => false

def isNumber : Value → Bool
  | bool _ | int _ | real _ => true
  | _ => false

/-- What a truth value, a whole number or a real stands for. -/
def quantity? : Value → Option Quantity
  | bool b => some (.ofInt (if b then 1 else 0))
  | int n => some (.ofInt n)
  | real x => Quantity.ofReal? x
  | _ => none

/-- Whether two values are one key of a map. Numbers are compared by what they stand for, and a real
that is no number is never the same as another. -/
def sameKey : Value → Value → Bool
  | null, null => true
  | text s, text t => s == t
  | bytes s, bytes t => s == t
  | moment s, moment t => s.same t
  | a, b =>
      match quantity? a, quantity? b with
      | some x, some y => x.same y
      | _, _ => false

/-- Whether a value is a number that is not less than another one. -/
def isAtLeast (a b : Value) : Bool :=
  match a.quantity?, b.quantity? with
  | some x, some y => !x.less y
  | _, _ => false

/-- A set. Numbers are put in order; other items stay as they are given. -/
def ofItems (items : List Value) : Value :=
  set (if items.all fun item => item.quantity?.isSome then items.mergeSort fun a b => b.isAtLeast a
    else items)

/-- A map with one entry for each key. -/
def ofEntries (entries : List (Value × Value)) : Value :=
  map (Entries.merge sameKey entries)

def entry? (entries : List (Value × Value)) (key : String) : Option Value :=
  Entries.get? sameKey entries (text key)

end Value
end PluralMessage
