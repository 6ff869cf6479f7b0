import PluralMessage.Document.Step

/-!
Tables of TOML and the paths that lead to them. A path is closed when an array or an inline table
stands there: nothing can be added below it.
-/
namespace PluralMessage.Document.Toml

abbrev Table := List (Value × Value)

/-- Opens the table at a path, creating it where it is missing, and changes it. A list of tables
stands for its last table if `throughLists` allows it. -/
def updateAt (throughLists : Bool) (change : Table → Except ReadError Table) :
    List String → Table → Except ReadError Table
  | [], table => change table
  | part :: path, table =>
      let store (v : Value) : Table := Entries.set Value.sameKey (.text part) v table
      match Value.entry? table part with
      | none => do
          let inner ← updateAt throughLists change path []
          pure (store (.map inner))
      | some (.map inner) => do
          let inner ← updateAt throughLists change path inner
          pure (store (.map inner))
      | some (.list items) =>
          match throughLists, items.getLast? with
          | true, some (.map inner) => do
              let inner ← updateAt throughLists change path inner
              pure (store (.list (items.dropLast ++ [.map inner])))
          | _, _ => .error .malformed
      | some _ => .error .malformed

def addEntry (key : String) (v : Value) (table : Table) : Except ReadError Table :=
  match Value.entry? table key with
  | some _ => .error .malformed
  | none => .ok (table ++ [(.text key, v)])

/-- Whether a value may not be extended from outside. -/
def isClosed : Value → Bool
  | .map _ | .list _ => true
  | _ => false

def closes (closed : List (List String)) (path : List String) : Bool :=
  closed.any fun p => p.isPrefixOf path

/-- Adds the value of a key, whose parts before the last lead to a table. -/
def addAt (throughLists : Bool) (key : List String) (v : Value) (table : Table) :
    Except ReadError Table :=
  match key.getLast? with
  | some last => updateAt throughLists (addEntry last v) key.dropLast table
  | none => .error .malformed

end PluralMessage.Document.Toml
