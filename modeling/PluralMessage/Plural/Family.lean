import PluralMessage.Plural.Remainder
import PluralMessage.Text.Quoted

/-!
Plural families: the grammars that decide which form of a noun goes with a count. A family has a
number of forms and a rule from counts to forms.
-/
namespace PluralMessage.Plural

/-- A plural grammar, shared by a group of languages. `default` is for locales without a rule. -/
inductive Family
  | default
  | none
  | oneOther
  | zeroOneOther
  | slavic
  | czech
  | irish
  | lithuanian
  | slovenian
  | macedonian
  | maltese
  | latvian
  | polish
  | welsh
  | romanian
  | arabic
deriving DecidableEq, Repr

namespace Family

def all : List Family :=
  [default, none, oneOther, zeroOneOther, slavic, czech, irish, lithuanian, slovenian, macedonian,
    maltese, latvian, polish, welsh, romanian, arabic]

def name : Family → String
  | default => "default"
  | none => "none"
  | oneOther => "one_other"
  | zeroOneOther => "zero_one_other"
  | slavic => "slavic"
  | czech => "czech"
  | irish => "irish"
  | lithuanian => "lithuanian"
  | slovenian => "slovenian"
  | macedonian => "macedonian"
  | maltese => "maltese"
  | latvian => "latvian"
  | polish => "polish"
  | welsh => "welsh"
  | romanian => "romanian"
  | arabic => "arabic"

def ofName? (name : String) : Option Family :=
  all.find? fun family => family.name = name

def forms : Family → Nat
  | default | none => 1
  | oneOther | zeroOneOther | macedonian => 2
  | slavic | czech | irish | lithuanian | latvian | polish | romanian => 3
  | slovenian | maltese | welsh => 4
  | arabic => 6

/-- The form that goes with a count, the first being 0. -/
def form (family : Family) (count : Int) : Nat :=
  let last := remainder count 10
  let lastTwo := remainder count 100
  match family with
  | default | none => 0
  | oneOther => if count = 1 then 0 else 1
  | zeroOneOther => if count = 0 ∨ count = 1 then 0 else 1
  | slavic =>
      if last = 1 ∧ lastTwo ≠ 11 then 0
      else if 2 ≤ last ∧ last ≤ 4 ∧ (lastTwo < 10 ∨ 20 ≤ lastTwo) then 1
      else 2
  | czech => if count = 1 then 0 else if 2 ≤ count ∧ count ≤ 4 then 1 else 2
  | irish => if count = 1 then 0 else if count = 2 then 1 else 2
  | lithuanian =>
      if last = 1 ∧ lastTwo ≠ 11 then 0
      else if 2 ≤ last ∧ (lastTwo < 10 ∨ 20 ≤ lastTwo) then 1
      else 2
  | slovenian =>
      if lastTwo = 1 then 0
      else if lastTwo = 2 then 1
      else if lastTwo = 3 ∨ lastTwo = 4 then 2
      else 3
  | macedonian => if last = 1 then 0 else 1
  | maltese =>
      if count = 1 then 0
      else if count = 0 ∨ (1 < lastTwo ∧ lastTwo < 11) then 1
      else if 10 < lastTwo ∧ lastTwo < 20 then 2
      else 3
  | latvian => if count = 0 then 0 else if last = 1 ∧ lastTwo ≠ 11 then 1 else 2
  | polish =>
      if count = 1 then 0
      else if 2 ≤ last ∧ last ≤ 4 ∧ (lastTwo < 12 ∨ 14 < lastTwo) then 1
      else 2
  | welsh =>
      if count = 1 then 0
      else if count = 2 then 1
      else if count = 8 ∨ count = 11 then 2
      else 3
  | romanian =>
      if count = 1 then 0
      else if count = 0 ∨ (0 < lastTwo ∧ lastTwo < 20) then 1
      else 2
  | arabic =>
      if count = 0 then 0
      else if count = 1 then 1
      else if count = 2 then 2
      else if 3 ≤ lastTwo ∧ lastTwo ≤ 10 then 3
      else if 11 ≤ lastTwo ∧ lastTwo ≤ 99 then 4
      else 5

theorem form_lt_forms (family : Family) (count : Int) : family.form count < family.forms := by
  cases family <;> simp only [form, forms] <;> (repeat' split) <;> decide

end Family

def unknownFamilyMessage (name : String) : String :=
  s!"{String.ofList (Text.quote name.toList)} is not a valid PluralFamily"

end PluralMessage.Plural
