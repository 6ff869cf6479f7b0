import PluralMessage.Proofs.Plural.Forms
import PluralMessage.Proofs.Plural.Remainder

/-!
How a form depends on the size of its count. Below zero every test of a rule fails, for remainders
take the sign of the count, and the last form is left. From 12 on no rule looks at the count itself
any more but only at its last two digits, so forms recur every hundred counts, and those of the
counts up to 111 are all that there is to know about a locale.
-/
namespace PluralMessage.Plural

namespace Family

theorem form_of_neg (family : Family) {count : Int} (h : count < 0) :
    family.form count + 1 = family.forms := by
  have hlast : remainder count 10 ≤ 0 := remainder_nonpos h (by decide)
  have hlastTwo : remainder count 100 ≤ 0 := remainder_nonpos h (by decide)
  cases family <;> simp (disch := omega) only [form, forms, if_neg]

/-- The largest count that a rule names is 11, so larger ones differ in their last digits only. -/
theorem form_congr (family : Family) {a b : Int} (ha : 12 ≤ a) (hb : 12 ≤ b)
    (h : a % 100 = b % 100) : family.form a = family.form b := by
  refine family.form_congr_of_lastTwo (.inr ha) (.inr hb) ?_
  rw [remainder_of_nonneg (by omega) (by decide), remainder_of_nonneg (by omega) (by decide), h]

/-- No smaller bound will do. -/
example : welsh.form (11 + 100) ≠ welsh.form 11 := by decide

end Family

/-- A count below 112 that has the same form. -/
def representative (count : Int) : Int :=
  if count < 12 then count else 12 + (count - 12) % 100

theorem representative_nonneg {count : Int} (h : 0 ≤ count) : 0 ≤ representative count := by
  unfold representative
  split <;> omega

theorem representative_le (count : Int) : representative count ≤ 111 := by
  unfold representative
  split <;> omega

section
variable (locale : String) {other : String} {count : Int}

theorem form_add_hundreds (h : 12 ≤ count) (k : Nat) :
    form (count + 100 * k) locale = form count locale :=
  (family locale).form_congr (by omega) h (by omega)

theorem form_representative (count : Int) :
    form (representative count) locale = form count locale := by
  unfold representative
  split
  · rfl
  · exact (family locale).form_congr (by omega) (by omega) (by omega)

/-- Small counts tell how many forms there are, for each form is that of one of them. -/
theorem forms_le_of_agree
    (h : ∀ count, 0 ≤ count → count ≤ 111 → form count locale = form count other) :
    forms locale ≤ forms other := by
  have hlast : forms locale - 1 < forms locale :=
    Nat.sub_one_lt_of_lt (form_lt_forms 0 locale)
  obtain ⟨count, hlow, hhigh, hform⟩ := exists_form_eq hlast
  have hother := form_lt_forms count other
  rw [← h count hlow (by omega), hform] at hother
  omega

theorem form_eq_of_agree
    (h : ∀ count, 0 ≤ count → count ≤ 111 → form count locale = form count other) (count : Int) :
    form count locale = form count other := by
  by_cases hcount : count < 0
  · have hle := forms_le_of_agree locale h
    have hge := forms_le_of_agree other fun n hlow hhigh => (h n hlow hhigh).symm
    have hlocale : form count locale + 1 = forms locale := Family.form_of_neg _ hcount
    have hother : form count other + 1 = forms other := Family.form_of_neg _ hcount
    omega
  · calc form count locale
        = form (representative count) locale := (form_representative locale count).symm
      _ = form (representative count) other :=
          h _ (representative_nonneg (by omega)) (representative_le count)
      _ = form count other := form_representative other count

/-- A count below zero has the last of the forms that the locale declares. -/
theorem negative_has_last_form (h : count < 0) : form count locale + 1 = forms locale :=
  Family.form_of_neg _ h

theorem negative_has_last_form_russian : (-21 : Int) < 0 ∧ form (-21) "ru" = 2 := by
  have hlast : form (-21) "ru" + 1 = forms "ru" := negative_has_last_form "ru" (by decide)
  have hforms : forms "ru" = 3 := by decide
  exact ⟨by decide, by omega⟩

/-- Forms recur every hundred counts from 12 on. So the form of a count is that of its
representative, which is a count up to 111 and the same for all locales, or the last one below zero;
and locales that agree up to 111 agree everywhere. -/
theorem forms_recur :
    (∀ (count : Int) (k : Nat), 12 ≤ count →
      form (count + 100 * k) locale = form count locale) ∧
    (∀ count : Int,
      (count < 0 → form count locale + 1 = forms locale) ∧
      (0 ≤ count → 0 ≤ representative count ∧ representative count ≤ 111 ∧
        form count locale = form (representative count) locale)) ∧
    ∀ other : String,
      (∀ count, 0 ≤ count → count ≤ 111 → form count locale = form count other) →
      ∀ count, form count locale = form count other := by
  refine ⟨fun count k h => form_add_hundreds locale h k, ?_, fun other => form_eq_of_agree locale⟩
  intro count
  constructor
  · intro h
    exact Family.form_of_neg _ h
  · intro h
    have hform := form_representative locale count
    exact ⟨representative_nonneg h, representative_le count, hform.symm⟩

end

/-- A large count, and a locale without a rule beside one whose nouns have one form. -/
theorem forms_recur_large :
    ((12 : Int) ≤ 103 ∧ form (103 + 100 * (1234567890123456789 : Nat)) "ar" = 3) ∧
      (∀ count, 0 ≤ count → count ≤ 111 → form count "ja" = form count "la") ∧
      ∀ count, form count "ja" = form count "la" := by
  obtain ⟨hperiod, -, -⟩ := forms_recur "ar"
  have harabic : form (103 + 100 * (1234567890123456789 : Nat)) "ar" = form 103 "ar" :=
    hperiod 103 1234567890123456789 (by decide)
  obtain ⟨-, -, hagree⟩ := forms_recur "ja"
  have hsmall : ∀ count, 0 ≤ count → count ≤ 111 → form count "ja" = form count "la" :=
    fun _ _ _ => rfl
  exact ⟨⟨by decide, harabic.trans (by decide)⟩, hsmall, hagree "la" hsmall⟩

end PluralMessage.Plural
