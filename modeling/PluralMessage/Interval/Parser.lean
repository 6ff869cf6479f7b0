import PluralMessage.Interval.Basic
import PluralMessage.Text.Blank

/-!
Reading intervals. A reader takes a text, removes what it reads from its front and returns the rest.
Where it stops it says what it wanted and what was left, so the place of an error is the length of
what was read before. Blanks may stand before every number, bound and sign.

`read` reads a whole text, `search` finds the first interval inside one.
-/
namespace PluralMessage.Interval

inductive Wanted
  | opening
  | comma
  | closingBrace
  | bracket
  | number
deriving DecidableEq, Repr

inductive Stop
  | wanted (what : Wanted) (rest : List Char)
  | tooLong (e : Decimal.TooLong)
deriving DecidableEq, Repr

abbrev Reader (α : Type) := List Char → Except Stop (α × List Char)

/-- A fraction counts only when a digit follows its point. -/
def skipFraction : List Char → List Char
  | '.' :: c :: rest => if c.isDigit then rest.dropWhile Char.isDigit else '.' :: c :: rest
  | s => s

/-- A run of digits and a fraction, which is dropped. `start` is what an error reports as left. -/
def readDigits (start s : List Char) : Except Stop (Nat × List Char) :=
  let digits := s.takeWhile Char.isDigit
  let rest := skipFraction (s.dropWhile Char.isDigit)
  if digits.isEmpty then .error (.wanted .number start)
  else match Decimal.read digits with
    | .ok n => .ok (n, rest)
    | .error e => .error (.tooLong e)

/-- A number without blanks before it; the fraction is cut off, toward zero. -/
def readSigned (s : List Char) : Except Stop (Int × List Char) :=
  match s with
  | '-' :: rest => (readDigits s rest).map fun (n, rest) => (-(n : Int), rest)
  | _ => (readDigits s s).map fun (n, rest) => ((n : Int), rest)

def readNumber : Reader Int := fun s =>
  readSigned (Text.trimLeft s)

/-- A bound without blanks before it. -/
def readBoundHere : Reader Bound
  | '-' :: 'I' :: 'n' :: 'f' :: rest => .ok (.negInf, rest)
  | '+' :: 'I' :: 'n' :: 'f' :: rest => .ok (.posInf, rest)
  | 'I' :: 'n' :: 'f' :: rest => .ok (.posInf, rest)
  | '*' :: rest => .ok (.posInf, rest)
  | s => (readSigned s).map fun (n, rest) => (.finite n, rest)

def readBound : Reader Bound := fun s =>
  readBoundHere (Text.trimLeft s)

/-- One sign, blanks before it skipped. -/
def readSign (c : Char) (what : Wanted) (s : List Char) : Except Stop (List Char) :=
  match Text.trimLeft s with
  | d :: rest => if d = c then .ok rest else .error (.wanted what (d :: rest))
  | [] => .error (.wanted what [])

def readBracket : Reader Bracket := fun s =>
  match Text.trimLeft s with
  | '[' :: rest => .ok (.left, rest)
  | ']' :: rest => .ok (.right, rest)
  | rest => .error (.wanted .bracket rest)

theorem skipFraction_length_le (s : List Char) : (skipFraction s).length ≤ s.length := by
  unfold skipFraction
  split
  · rename_i c rest
    split
    · have := (List.dropWhile_sublist Char.isDigit (l := rest)).length_le
      simp only [List.length_cons]
      omega
    · exact Nat.le_refl _
  · exact Nat.le_refl _

theorem readDigits_length_lt {start s rest : List Char} {n : Nat}
    (h : readDigits start s = .ok (n, rest)) : rest.length < s.length := by
  unfold readDigits at h
  simp only at h
  split at h
  · cases h
  · rename_i hne
    split at h
    · cases h
      have hf := skipFraction_length_le (s.dropWhile Char.isDigit)
      have hs := congrArg List.length (List.takeWhile_append_dropWhile (p := Char.isDigit) (l := s))
      rw [List.length_append] at hs
      have hp : 0 < (s.takeWhile Char.isDigit).length := by
        cases hd : s.takeWhile Char.isDigit with
        | nil => simp [hd] at hne
        | cons => simp
      omega
    · cases h

theorem readSigned_length_lt {s rest : List Char} {n : Int}
    (h : readSigned s = .ok (n, rest)) : rest.length < s.length := by
  unfold readSigned at h
  split at h
  · rename_i tail
    cases hd : readDigits ('-' :: tail) tail with
    | error e => simp [hd, Except.map] at h
    | ok p =>
      obtain ⟨m, r⟩ := p
      simp only [hd, Except.map, Except.ok.injEq, Prod.mk.injEq] at h
      have := readDigits_length_lt hd
      simp only [List.length_cons, ← h.2]
      omega
  · cases hd : readDigits s s with
    | error e => simp [hd, Except.map] at h
    | ok p =>
      obtain ⟨m, r⟩ := p
      simp only [hd, Except.map, Except.ok.injEq, Prod.mk.injEq] at h
      have := readDigits_length_lt hd
      rw [← h.2]
      omega

theorem readNumber_length_lt {s rest : List Char} {n : Int}
    (h : readNumber s = .ok (n, rest)) : rest.length < s.length :=
  Nat.lt_of_lt_of_le (readSigned_length_lt h) (Text.trimLeft_length_le s)

/-- The numbers that follow a comma each, up to the first place without one. -/
def readMore (s : List Char) : Except Stop (List Int × List Char) :=
  match _ : Text.trimLeft s with
  | ',' :: tail =>
      match _ : readNumber tail with
      | .ok (n, rest) => (readMore rest).map fun (ns, rest) => (n :: ns, rest)
      | .error e => .error e
  | rest => .ok ([], rest)
termination_by s.length
decreasing_by
  rename_i hs hn
  have h1 := readNumber_length_lt hn
  have h2 := Text.trimLeft_length_le s
  rw [hs, List.length_cons] at h2
  omega

/-- A set after its opening brace. -/
def readSet : Reader Interval := fun s => do
  let (first, s) ← readNumber s
  let (more, s) ← readMore s
  let s ← readSign '}' .closingBrace s
  pure (set first more, s)

def readRange (opening : Bracket) : Reader Interval := fun s => do
  let (lower, s) ← readBound s
  let s ← readSign ',' .comma s
  let (upper, s) ← readBound s
  let (closing, s) ← readBracket s
  pure (range opening lower.finite? upper closing, s)

/-- An interval at the very front of a text. -/
def readFront : Reader Interval
  | '{' :: s => readSet s
  | '[' :: s => readRange .left s
  | ']' :: s => readRange .right s
  | s => .error (.wanted .opening s)

/-- Why a text is no interval. The place counts characters of the trimmed text. -/
inductive Malformed
  | wanted (what : Wanted) (text : List Char) (place : Nat)
  | trailing (text : List Char) (place : Nat)
deriving DecidableEq, Repr

inductive ReadError
  | malformed (e : Malformed)
  | tooLong (e : Decimal.TooLong)
deriving DecidableEq, Repr

/-- Reads a whole text, blanks at its ends aside. A text that goes on after an interval is reported
as it was given and any other trimmed. -/
def read (text : List Char) : Except ReadError Interval :=
  let s := Text.trim text
  match readFront s with
  | .ok (interval, []) => .ok interval
  | .ok (_, rest) => .error (.malformed (.trailing text (s.length - rest.length)))
  | .error (.wanted what rest) =>
      .error (.malformed (.wanted what s (s.length - rest.length)))
  | .error (.tooLong e) => .error (.tooLong e)

def isOpening (c : Char) : Bool :=
  c == '{' || c == '[' || c == ']'

/-- The first interval inside a text. A run of digits that is too long ends the search. -/
def search : List Char → Except Decimal.TooLong (Option Interval)
  | [] => .ok none
  | c :: s =>
      if isOpening c then
        match readFront (c :: s) with
        | .ok (interval, _) => .ok (some interval)
        | .error (.wanted _ _) => search s
        | .error (.tooLong e) => .error e
      else search s

end PluralMessage.Interval
