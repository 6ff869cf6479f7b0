import PluralMessage.Document.Toml.Scalar
import PluralMessage.Document.Toml.Stamp
import PluralMessage.Document.Toml.Table

/-!
TOML documents: entries and headers, a line each. What may not be written a second time is kept
beside the table that is read: the paths that a header or a dotted key has opened, and those that
are closed.
-/
namespace PluralMessage.Document.Toml

def skipComment : List Char → Except ReadError (List Char)
  | '#' :: s =>
      if (s.takeWhile (· != '\n')).any isControl then .error .malformed
      else .ok (s.dropWhile (· != '\n'))
  | s => .ok s

/-- Skips spaces, line ends and comments inside an array. -/
def skipInArray : (fuel : Nat) → List Char → Except ReadError (List Char)
  | 0, s => .ok s
  | fuel + 1, s =>
      match skipGap s with
      | '#' :: rest => do
          let rest ← skipComment ('#' :: rest)
          skipInArray fuel rest
      | rest => .ok rest

/-- What is left of a depth for something that takes up a part of it, and needs more for a while. -/
def deeper (taken needed depth : Nat) : Except ReadError Nat :=
  if depth < needed then .error (.tooDeep .other) else .ok (depth - taken)

mutual

/-- A value, with no space before it. An array takes up two levels of the depth that is left, and an
inline table three. -/
def readValue : (fuel depth : Nat) → Step Value
  | 0, _, _ => .error .malformed
  | _ + 1, _, '"' :: s => do
      let (text, s) ← readString '"' s
      pure (.text text, s)
  | _ + 1, _, '\'' :: s => do
      let (text, s) ← readString '\'' s
      pure (.text text, s)
  | fuel + 1, depth, '[' :: s => do
      let (items, s) ← readItems fuel (← deeper 2 3 depth) s
      pure (.list items, s)
  | fuel + 1, depth, '{' :: s =>
      match skipSpace s with
      | '}' :: s => pure (.map [], s)
      | s => do
          let (table, s) ← readInline fuel (← deeper 3 5 depth) [] [] s
          pure (.map table, s)
  | _ + 1, _, s =>
      match readWord? s, readMoment? s, readBased? s with
      | some found, _, _ => pure found
      | none, some found, _ => found.map fun (m, s) => (.moment m, s)
      | none, none, some (n, s) => pure (.int n, s)
      | none, none, none => readDecimal s

/-- Items up to the closing bracket; a comma may stand before it. -/
def readItems : (fuel depth : Nat) → Step (List Value)
  | 0, _, _ => .error .malformed
  | fuel + 1, depth, s => do
      match ← skipInArray s.length s with
      | ']' :: s => pure ([], s)
      | s => do
          let (item, s) ← readValue fuel depth s
          match ← skipInArray s.length s with
          | ']' :: s => pure ([item], s)
          | ',' :: s => do
              let (items, s) ← readItems fuel depth s
              pure (item :: items, s)
          | _ => .error .malformed

/-- Entries of an inline table up to the closing brace; there is at least one. -/
def readInline :
    (fuel depth : Nat) → (table : Table) → (closed : List (List String)) → Step Table
  | 0, _, _, _, _ => .error .malformed
  | fuel + 1, depth, table, closed, s => do
      let (key, v, s) ← readEntry fuel depth s
      if closes closed key then .error .malformed
      else
        let table ← addAt false key v table
        match skipSpace s with
        | '}' :: s => pure (table, s)
        | ',' :: s =>
            readInline fuel depth table (if isClosed v then key :: closed else closed) (skipSpace s)
        | _ => .error .malformed

def readEntry :
    (fuel depth : Nat) → List Char → Except ReadError (List String × Value × List Char)
  | 0, _, _ => .error .malformed
  | fuel + 1, depth, s => do
      let (key, s) ← readKey (s.length + 1) s
      match s with
      | '=' :: s => do
          let (v, s) ← readValue fuel depth (skipSpace s)
          pure (key, v, s)
      | _ => .error .malformed

end

/-- What has been read of a document. `opened` holds the paths that a header or a dotted key has
opened; those of the dotted keys under the last header wait in `pending` until the next one. -/
structure State where
  table : Table
  header : List String
  opened : List (List String)
  pending : List (List String)
  closed : List (List String)

/-- The paths that a key passes under a header, its own not among them. -/
def passedPaths (header key : List String) : List (List String) :=
  (List.range (key.length - 1)).map fun n => header ++ key.take (n + 1)

def State.add (state : State) (key : List String) (v : Value) : Except ReadError State :=
  let passed := passedPaths state.header key
  if passed.any state.opened.contains || closes state.closed (state.header ++ key.dropLast) then
    .error .malformed
  else do
    let table ← addAt true (state.header ++ key) v state.table
    pure { state with
      table := table
      pending := passed ++ state.pending
      closed := if isClosed v then (state.header ++ key) :: state.closed else state.closed }

/-- Moves to a header: a table may have one only. -/
def State.openTable (state : State) (key : List String) : Except ReadError State :=
  let opened := state.pending ++ state.opened
  if opened.contains key || closes state.closed key then .error .malformed
  else do
    let table ← updateAt true .ok key state.table
    pure { state with table := table, header := key, opened := key :: opened, pending := [] }

def State.openItem (state : State) (key : List String) : Except ReadError State :=
  let kept (paths : List (List String)) := paths.filter fun p => !key.isPrefixOf p
  if closes state.closed key then .error .malformed
  else
    let append (last : String) (table : Table) : Except ReadError Table :=
      match Value.entry? table last with
      | none => .ok (Entries.set Value.sameKey (.text last) (.list [.map []]) table)
      | some (.list items) =>
          .ok (Entries.set Value.sameKey (.text last) (.list (items ++ [.map []])) table)
      | some _ => .error .malformed
    match key.getLast? with
    | none => .error .malformed
    | some last => do
        let table ← updateAt true (append last) key.dropLast state.table
        pure {
          table := table
          header := key
          opened := key :: kept (state.pending ++ state.opened)
          pending := []
          closed := kept state.closed }

def readHeader (state : State) (s : List Char) : Except ReadError (State × List Char) :=
  match s with
  | '[' :: s => do
      let (key, s) ← readKey (s.length + 1) (skipSpace s)
      match s with
      | ']' :: ']' :: s => do
          let state ← state.openItem key
          pure (state, s)
      | _ => .error .malformed
  | s => do
      let (key, s) ← readKey (s.length + 1) (skipSpace s)
      match s with
      | ']' :: s => do
          let state ← state.openTable key
          pure (state, s)
      | _ => .error .malformed

def readLines (depth : Nat) : (fuel : Nat) → State → List Char → Except ReadError Table
  | 0, _, _ => .error .malformed
  | fuel + 1, state, s => do
      let (state, s) ← match skipSpace s with
        | [] => pure (state, [])
        | '\n' :: s => pure (state, '\n' :: s)
        | '#' :: s => pure (state, '#' :: s)
        | '[' :: s => readHeader state s
        | s => do
            let (key, v, s) ← readEntry (3 * s.length + 3) depth s
            let state ← state.add key v
            pure (state, s)
      match ← skipComment (skipSpace s) with
      | [] => pure state.table
      | '\n' :: s => readLines depth fuel state s
      | _ => .error .malformed

/-- Reads a document. The values of its lines have so much depth each. -/
def read (depth : Nat) (document : List Char) : Except ReadError Value := do
  let table ← readLines depth (document.length + 1) ⟨[], [], [], [], []⟩ document
  pure (.map table)

end PluralMessage.Document.Toml
