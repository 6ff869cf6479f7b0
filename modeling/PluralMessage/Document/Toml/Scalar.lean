import PluralMessage.Document.Toml.Quoted

/-!
Keys, numbers and words of TOML. A quoted part of a key stands on one line.
-/
namespace PluralMessage.Document.Toml

def isBareKey (c : Char) : Bool :=
  c.isAlphanum || c == '_' || c == '-'

def readKeyPart : Step String
  | '"' :: s => do
      let (chars, s) ← readLineIn '"' s
      pure (String.ofList chars, s)
  | '\'' :: s => do
      let (chars, s) ← readLineIn '\'' s
      pure (String.ofList chars, s)
  | s =>
      let chars := s.takeWhile isBareKey
      if chars.isEmpty then .error .malformed
      else pure (String.ofList chars, s.dropWhile isBareKey)

/-- The parts of a key, with the space after it skipped. -/
def readKey : (fuel : Nat) → Step (List String)
  | 0, _ => .error .malformed
  | fuel + 1, s => do
      let (part, s) ← readKeyPart s
      match skipSpace s with
      | '.' :: s => do
          let (parts, s) ← readKey fuel (skipSpace s)
          pure (part :: parts, s)
      | s => pure ([part], s)

/-- A run of digits in which single low lines may stand between two digits. -/
def takeDigits (isDigit : Char → Bool) : List Char → List Char × List Char
  | '_' :: c :: s =>
      if isDigit c then
        let (digits, rest) := takeDigits isDigit s
        (c :: digits, rest)
      else ([], '_' :: c :: s)
  | c :: s =>
      if isDigit c then
        let (digits, rest) := takeDigits isDigit s
        (c :: digits, rest)
      else ([], c :: s)
  | [] => ([], [])

/-- As `takeDigits`, but the run starts with a digit. -/
def takeRun (isDigit : Char → Bool) (s : List Char) : List Char × List Char :=
  match s with
  | c :: _ => if isDigit c then takeDigits isDigit s else ([], s)
  | [] => ([], s)

/-- A number in a base that its second character names. -/
def readBased? : List Char → Option (Nat × List Char)
  | '0' :: b :: s =>
      let base := match b with
        | 'x' => some (16, fun c => (hexValue? c).isSome)
        | 'o' => some (8, fun c => '0' ≤ c && c ≤ '7')
        | 'b' => some (2, fun c => c == '0' || c == '1')
        | _ => none
      base.bind fun (base, isDigit) =>
        let (digits, rest) := takeRun isDigit s
        if digits.isEmpty then none
        else some (digits.foldl (fun n c => base * n + (hexValue? c).getD 0) 0, rest)
  | _ => none

def readReal (s : List Char) : Option (List Char) × Option Int × List Char :=
  let (fraction, s) := match s with
    | '.' :: tail =>
        let (digits, rest) := takeRun Char.isDigit tail
        if digits.isEmpty then (none, s) else (some digits, rest)
    | _ => (none, s)
  match s with
  | e :: tail =>
      let (negative, rest) := readSign tail
      let (digits, rest) := takeRun Char.isDigit rest
      if (e == 'e' || e == 'E') && !digits.isEmpty then
        (fraction, some (signed negative digits), rest)
      else (fraction, none, s)
  | [] => (fraction, none, s)

/-- A number in decimal; a whole part of several digits does not start with a zero. -/
def readDecimal : Step Value := fun s => do
  let (negative, s) := readSign s
  let (whole, s) := match s with
    | '0' :: s => (['0'], s)
    | s => takeRun Char.isDigit s
  if whole.isEmpty then .error .malformed
  else
    let (fraction, power, s) := readReal s
    if fraction.isNone && power.isNone then
      let n ← readNat whole
      pure (.int (if negative then -(n : Int) else n), s)
    else
      pure (.real (Binary64.ofParts negative whole (fraction.getD []) (power.getD 0)), s)

def words : List (String × Value) :=
  [("true", .bool true), ("false", .bool false), ("inf", .real (.infinite false)),
    ("+inf", .real (.infinite false)), ("-inf", .real (.infinite true)), ("nan", .real .nan),
    ("+nan", .real .nan), ("-nan", .real .nan)]

def readWord? (s : List Char) : Option (Value × List Char) :=
  words.findSome? fun (word, v) => (afterWord? word s).map (v, ·)

end PluralMessage.Document.Toml
