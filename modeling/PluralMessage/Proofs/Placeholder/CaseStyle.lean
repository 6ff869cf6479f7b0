import Mathlib.Tactic.ByContra
import PluralMessage.Proofs.Placeholder.Locality
import PluralMessage.Proofs.Text.Case

/-!
The case style of a placeholder. How a name is written decides the case of its value by comparison
with the name in upper case, so a name that has nothing to change there counts as written in upper
case. The value is left as it is if the first word character of the name is a small letter.
-/
namespace PluralMessage.Placeholder

theorem apply_singleton (s : List Char) (entry : List Char × List Char) :
    apply s [entry] = replace entry.1 entry.2 s := by
  rw [apply_eq_passes, longestFirst, List.mergeSort_singleton]
  rfl

/-- A text that is one placeholder is filled with the value, in the case of the name. -/
theorem apply_token {name token : List Char} (hlength : token.length = name.length)
    (h : startsWith name token = true) (value : List Char) :
    apply (mark :: token) [(name, value)] = inCaseOf token value := by
  rw [apply_singleton, replace_mark_cons h, ← hlength, List.take_length, List.drop_length]
  exact List.append_nil _

section
variable {token : List Char}

theorem inCaseOf_eq_self {c : Char} (hc : token.find? Text.isWord = some c)
    (h : Text.upperChar c ≠ [c]) (value : List Char) : inCaseOf token value = value := by
  have hupper : token ≠ Text.upper token := by
    intro heq
    exact h (Text.upper_eq_self_iff.1 heq.symm c (List.mem_of_find?_eq_some hc))
  have hfirst : token ≠ Text.capitalizeFirstWord token := by
    intro heq
    exact h (Text.capitalizeFirstWord_eq_self_iff.1 heq.symm c hc)
  rw [inCaseOf, if_neg hupper, if_neg hfirst]

theorem inCaseOf_of_unchanged (h : ∀ c ∈ token, Text.upperChar c = [c]) (value : List Char) :
    inCaseOf token value = Text.upper value :=
  if_pos (Text.upper_eq_self_iff.2 h).symm

theorem inCaseOf_of_first_unchanged (h : ∀ c ∈ token.find? Text.isWord, Text.upperChar c = [c])
    (hother : ∃ c ∈ token, Text.upperChar c ≠ [c]) (value : List Char) :
    inCaseOf token value = Text.capitalize value := by
  obtain ⟨c, hc, hne⟩ := hother
  have hupper : token ≠ Text.upper token := fun heq =>
    hne (Text.upper_eq_self_iff.1 heq.symm c hc)
  have hfirst : token = Text.capitalizeFirstWord token :=
    (Text.capitalizeFirstWord_eq_self_iff.2 h).symm
  rw [inCaseOf, if_neg hupper, if_pos hfirst]

/-- A value that upper case leaves as it is is inserted as it is. -/
theorem inCaseOf_of_value_unchanged {value : List Char} (h : ∀ c ∈ value, Text.upperChar c = [c])
    (written : List Char) : inCaseOf written value = value := by
  have hcapitalize : Text.capitalize value = value := by
    cases value with
    | nil => rfl
    | cons c s => rw [Text.capitalize, h c List.mem_cons_self, List.singleton_append]
  rw [inCaseOf, Text.upper_eq_self_iff.2 h, hcapitalize, ite_self, ite_self]

end

/-- A placeholder inserts every value unchanged if and only if the first word character of the name
as it is written has an upper case of its own. Of the other placeholders, one in which no character
has one inserts the value in upper case, and any other capitalized. -/
theorem apply_token_unchanged_iff {name token : List Char} (hlength : token.length = name.length)
    (h : startsWith name token = true) :
    ((∀ value, apply (mark :: token) [(name, value)] = value) ↔
        ∃ c, token.find? Text.isWord = some c ∧ Text.upperChar c ≠ [c]) ∧
      ∀ value, (∀ c ∈ token.find? Text.isWord, Text.upperChar c = [c]) →
        ((∀ c ∈ token, Text.upperChar c = [c]) →
          apply (mark :: token) [(name, value)] = Text.upper value) ∧
        ((∃ c ∈ token, Text.upperChar c ≠ [c]) →
          apply (mark :: token) [(name, value)] = Text.capitalize value) := by
  simp only [apply_token hlength h]
  refine ⟨⟨?_, ?_⟩, fun value hfirst => ⟨fun hall => inCaseOf_of_unchanged hall value,
    fun hother => inCaseOf_of_first_unchanged hfirst hother value⟩⟩
  · intro hvalues
    by_contra hnone
    have hfirst : ∀ c ∈ token.find? Text.isWord, Text.upperChar c = [c] := by
      intro c hc
      by_contra hne
      exact hnone ⟨c, hc, hne⟩
    have hsmall := hvalues ['a']
    by_cases hother : ∃ c ∈ token, Text.upperChar c ≠ [c]
    · rw [inCaseOf_of_first_unchanged hfirst hother] at hsmall
      exact absurd hsmall (by decide)
    · rw [inCaseOf_of_unchanged (by simpa using hother)] at hsmall
      exact absurd hsmall (by decide)
  · rintro ⟨c, hc, hne⟩ value
    exact inCaseOf_eq_self hc hne value

theorem apply_token_unchanged_iff_street :
    ("straße_2".toList.length = "STRAßE_2".toList.length ∧
        startsWith "STRAßE_2".toList "straße_2".toList = true) ∧
      apply ":straße_2".toList [("STRAßE_2".toList, "élan".toList)] = "élan".toList := by
  have hlength : "straße_2".toList.length = "STRAßE_2".toList.length := by decide
  have hname : startsWith "STRAßE_2".toList "straße_2".toList = true := by decide
  refine ⟨⟨hlength, hname⟩, ?_⟩
  exact (apply_token_unchanged_iff hlength hname).1.2 ⟨'s', by decide, by decide⟩ "élan".toList

/-- The digit in front of a small letter is its own upper case. -/
theorem apply_token_ordinal :
    ¬ ∀ name value token : List Char, name ≠ [] → token.length = name.length →
        startsWith name token = true → (∀ c ∈ token, Text.lower [c] = [c]) →
        apply (mark :: token) [(name, value)] = value := by
  intro h
  have hsmall : "1st".toList.all (fun c => Text.lower [c] = [c]) = true := by decide
  have hordinal := h "1st".toList "ana".toList "1st".toList (by decide) rfl (by decide)
    fun c hc => of_decide_eq_true (List.all_eq_true.1 hsmall c hc)
  rw [apply_token rfl (by decide)] at hordinal
  exact absurd hordinal (by decide)

end PluralMessage.Placeholder
