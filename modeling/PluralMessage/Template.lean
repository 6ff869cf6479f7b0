import PluralMessage.Interval.Parser

/-!
Templates. A template holds the variants of a message between bars, and a variant may start with a
rule. A template without a bar is one variant, taken as it stands.

A piece of a template has a rule when an interval occurs anywhere in it; the rule is then its first
word, whether or not that word is the interval.
-/
namespace PluralMessage

/-- A variant of a message: its text and the rule in front of it, as written. -/
structure Variant where
  text : List Char
  rule : Option (List Char)
deriving DecidableEq, Repr

namespace Template

def separator : Char := '|'

/-- A template with one variant only. -/
def isSingle (template : List Char) : Bool :=
  !template.contains separator

def consFirst (c : Char) : List (List Char) → List (List Char)
  | [] => [[c]]
  | piece :: pieces => (c :: piece) :: pieces

/-- What stands between the separators; there is one piece more than separators. -/
def pieces : List Char → List (List Char)
  | [] => [[]]
  | c :: s => if c = separator then [] :: pieces s else consFirst c (pieces s)

def readPiece (piece : List Char) : Except Decimal.TooLong Variant :=
  let s := Text.trim piece
  match Interval.search s with
  | .ok (some _) => .ok ⟨Text.afterFirstWord s, some (Text.firstWord s)⟩
  | .ok none => .ok ⟨s, none⟩
  | .error e => .error e

def split (template : List Char) : Except Decimal.TooLong (List Variant) :=
  if isSingle template then .ok [⟨template, none⟩] else (pieces template).mapM readPiece

def join (pieces : List (List Char)) : List Char :=
  [separator].intercalate pieces

theorem pieces_ne_nil (s : List Char) : pieces s ≠ [] := by
  cases s with
  | nil => simp [pieces]
  | cons c s =>
      simp only [pieces]
      split
      · simp
      · cases pieces s <;> simp [consFirst]

theorem join_consFirst {pieces : List (List Char)} (h : pieces ≠ []) (c : Char) :
    join (consFirst c pieces) = c :: join pieces := by
  match pieces with
  | [] => exact absurd rfl h
  | [_] => simp [consFirst, join, List.intercalate]
  | _ :: _ :: _ => simp [consFirst, join, List.intercalate]

theorem join_cons {pieces : List (List Char)} (h : pieces ≠ []) (piece : List Char) :
    join (piece :: pieces) = piece ++ separator :: join pieces := by
  cases pieces with
  | nil => exact absurd rfl h
  | cons => simp [join, List.intercalate]

theorem join_pieces (s : List Char) : join (pieces s) = s := by
  induction s with
  | nil => rfl
  | cons c s ih =>
      simp only [pieces]
      split
      · rename_i hc
        rw [join_cons (pieces_ne_nil s), ih, hc, List.nil_append]
      · rw [join_consFirst (pieces_ne_nil s), ih]

theorem separator_notMem_of_mem_pieces {s piece : List Char} (h : piece ∈ pieces s) :
    separator ∉ piece := by
  induction s generalizing piece with
  | nil =>
      rw [pieces, List.mem_singleton] at h
      simp [h]
  | cons c s ih =>
      simp only [pieces] at h
      split at h
      · rcases List.mem_cons.1 h with rfl | h
        · simp
        · exact ih h
      · rename_i hc
        cases hp : pieces s with
        | nil => exact absurd hp (pieces_ne_nil s)
        | cons first more =>
            rw [hp, consFirst] at h
            rcases List.mem_cons.1 h with rfl | h
            · have := @ih first (by simp [hp])
              simp [this, Ne.symm hc]
            · exact ih (by simp [hp, h])

end Template

/-- A variant as a piece of a template: its rule and its text, with a space between them. -/
def Variant.print (variant : Variant) : List Char :=
  match variant.rule with
  | none => variant.text
  | some rule => if variant.text.isEmpty then rule else rule ++ ' ' :: variant.text

def Template.render (variants : List Variant) : List Char :=
  join (variants.map Variant.print)

end PluralMessage
