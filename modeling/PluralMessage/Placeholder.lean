import PluralMessage.Text.Case

/-!
Placeholders. A placeholder is a colon and the name of a value; names match without regard to case,
and the case of a name in the text decides the case of what is inserted.

Names are replaced one after the other, the longest first, each in one pass over the text that the
pass before it left. So a name is never taken for the start of a longer one, and an inserted value
may hold placeholders of the names that come later.
-/
namespace PluralMessage.Placeholder

def mark : Char := ':'

def startsWith : List Char → List Char → Bool
  | [], _ => true
  | _ :: _, [] => false
  | k :: name, c :: s => Text.sameLetter k c && startsWith name s

/-- A value in the case of the name it replaces: a name in upper case has it all in upper case, a
name with a capital at its first word character has its first character in upper case. -/
def inCaseOf (written value : List Char) : List Char :=
  if written = Text.upper written then Text.upper value
  else if written = Text.capitalizeFirstWord written then Text.capitalize value
  else value

/-- Replaces a name from left to right, passing over the first `skip` characters, which belong to
a placeholder that was replaced. -/
def replaceFrom (name value : List Char) : (skip : Nat) → List Char → List Char
  | _, [] => []
  | skip + 1, _ :: s => replaceFrom name value skip s
  | 0, c :: s =>
      if c = mark && startsWith name s then
        inCaseOf (s.take name.length) value ++ replaceFrom name value name.length s
      else c :: replaceFrom name value 0 s

def replace (name value s : List Char) : List Char :=
  replaceFrom name value 0 s

/-- Items by the length of their names, longest first; items of one length keep their order. -/
def longestFirst {α : Type} (name : α → List Char) (items : List α) : List α :=
  items.mergeSort fun a b => decide ((name b).length ≤ (name a).length)

def sortNames (names : List (List Char)) : List (List Char) :=
  longestFirst id names

theorem longestFirst_perm {α : Type} (name : α → List Char) (items : List α) :
    (longestFirst name items).Perm items :=
  List.mergeSort_perm items _

theorem notShorter_trans {α : Type} (name : α → List Char) (a b c : α)
    (hab : decide ((name b).length ≤ (name a).length) = true)
    (hbc : decide ((name c).length ≤ (name b).length) = true) :
    decide ((name c).length ≤ (name a).length) = true := by
  simp only [decide_eq_true_eq] at *
  omega

theorem notShorter_total {α : Type} (name : α → List Char) (a b : α) :
    (decide ((name b).length ≤ (name a).length) ||
      decide ((name a).length ≤ (name b).length)) = true := by
  simp only [Bool.or_eq_true, decide_eq_true_eq]
  omega

theorem pairwise_longestFirst {α : Type} (name : α → List Char) (items : List α) :
    (longestFirst name items).Pairwise fun a b => (name b).length ≤ (name a).length :=
  (List.pairwise_mergeSort (notShorter_trans name) (notShorter_total name) items).imp
    of_decide_eq_true

/-- Replaces the placeholders of all names, each paired with the text of its value. -/
def apply (s : List Char) (values : List (List Char × List Char)) : List Char :=
  (longestFirst Prod.fst values).foldl (fun s (name, value) => replace name value s) s

end PluralMessage.Placeholder
