import PluralMessage.Plural.Family

/-!
Families that sort counts alike. Slavic, Lithuanian and Latvian rules ask for numbers that end in
one, Slavic and Polish ones for numbers that end in two to four, and they leave the teens out in
different ways. Which of the teens there are to leave out depends on the last digit, so the ways
come to the same.
-/
namespace PluralMessage.Plural

/-- The number ends in one, but not in eleven. -/
def EndsInOne (count : Int) : Prop :=
  remainder count 10 = 1 ∧ remainder count 100 ≠ 11

/-- The number ends in two to four, and its last two digits are none of the teens. -/
def EndsInFew (count : Int) : Prop :=
  2 ≤ remainder count 10 ∧ remainder count 10 ≤ 4 ∧
    (remainder count 100 < 10 ∨ 20 ≤ remainder count 100)

section
variable {count : Int}

instance : Decidable (EndsInOne count) :=
  inferInstanceAs (Decidable (_ ∧ _))

instance : Decidable (EndsInFew count) :=
  inferInstanceAs (Decidable (_ ∧ _))

theorem endsInOne_one : EndsInOne 1 := by
  decide

theorem not_endsInOne_zero : ¬ EndsInOne 0 := by
  decide

theorem not_endsInOne_of_endsInFew (h : EndsInFew count) : ¬ EndsInOne count := by
  intro hone
  have hlow : 2 ≤ remainder count 10 := h.1
  have hlast : remainder count 10 = 1 := hone.1
  omega

/-- Remainders of negative counts are not positive, so such counts end in no digit but zero. -/
theorem nonneg_of_remainder_pos {divisor : Int} (hd : 0 < divisor)
    (h : 0 < remainder count divisor) : 0 ≤ count := by
  apply Int.not_lt.1
  intro hcount
  have hle := remainder_nonpos hcount hd
  omega

/-- Of the teens, only twelve to fourteen end in two to four. -/
theorem endsInFew_iff :
    EndsInFew count ↔ 2 ≤ remainder count 10 ∧ remainder count 10 ≤ 4 ∧
      (remainder count 100 < 12 ∨ 14 < remainder count 100) := by
  refine and_congr_right fun hlow => and_congr_right fun hhigh => ?_
  have hpos : 0 < remainder count 10 := by omega
  have hcount : 0 ≤ count := nonneg_of_remainder_pos (by decide) hpos
  rw [remainder_of_nonneg hcount (by decide)] at hlow hhigh
  rw [remainder_of_nonneg hcount (by decide)]
  omega

end

namespace Family

/-! Rules with three forms, the first two of which have a test each. -/

section
variable (p q : Prop) [Decidable p] [Decidable q]

theorem tiers_eq_zero_iff : (if p then 0 else if q then 1 else 2) = 0 ↔ p := by
  split
  · simp [*]
  · split <;> simp [*]

theorem tiers_eq_one_iff : (if p then 0 else if q then 1 else 2) = 1 ↔ ¬ p ∧ q := by
  split
  · simp [*]
  · split <;> simp [*]

end

/-! The rules, by the endings that they ask for. -/

section
variable (count : Int)

theorem form_slavic :
    slavic.form count = if EndsInOne count then 0 else if EndsInFew count then 1 else 2 :=
  rfl

theorem form_polish :
    polish.form count = if count = 1 then 0 else if EndsInFew count then 1 else 2 := by
  simp only [endsInFew_iff]
  rfl

theorem form_lithuanian :
    lithuanian.form count =
      if EndsInOne count then 0
      else if 2 ≤ remainder count 10 ∧ (remainder count 100 < 10 ∨ 20 ≤ remainder count 100) then 1
      else 2 :=
  rfl

theorem form_latvian :
    latvian.form count = if count = 0 then 0 else if EndsInOne count then 1 else 2 :=
  rfl

theorem form_slavic_eq_zero_iff : slavic.form count = 0 ↔ EndsInOne count := by
  rw [form_slavic, tiers_eq_zero_iff]

theorem form_lithuanian_eq_zero_iff : lithuanian.form count = 0 ↔ EndsInOne count := by
  rw [form_lithuanian, tiers_eq_zero_iff]

theorem form_slavic_eq_one_iff : slavic.form count = 1 ↔ EndsInFew count := by
  rw [form_slavic, tiers_eq_one_iff]
  exact and_iff_right_of_imp not_endsInOne_of_endsInFew

theorem form_polish_eq_one_iff : polish.form count = 1 ↔ EndsInFew count := by
  rw [form_polish, tiers_eq_one_iff]
  refine and_iff_right_of_imp ?_
  rintro hfew rfl
  exact not_endsInOne_of_endsInFew hfew endsInOne_one

theorem form_latvian_eq_one_iff : latvian.form count = 1 ↔ EndsInOne count := by
  rw [form_latvian, tiers_eq_one_iff]
  refine and_iff_right_of_imp ?_
  rintro hone rfl
  exact not_endsInOne_zero hone

end

section
variable {count : Int}

theorem form_lithuanian_of_endsInFew (h : EndsInFew count) : lithuanian.form count = 1 := by
  rw [form_lithuanian, if_neg (not_endsInOne_of_endsInFew h), if_pos ⟨h.1, h.2.2⟩]

theorem form_of_endsInOne (h : EndsInOne count) (hne : count ≠ 1) :
    slavic.form count = 0 ∧ polish.form count = 2 := by
  have hfew : ¬ EndsInFew count := fun hfew => not_endsInOne_of_endsInFew hfew h
  exact ⟨by rw [form_slavic, if_pos h], by rw [form_polish, if_neg hne, if_neg hfew]⟩

theorem form_polish_ne_slavic_iff :
    polish.form count ≠ slavic.form count ↔ EndsInOne count ∧ count ≠ 1 := by
  by_cases hcount : count = 1
  · subst hcount
    decide
  · by_cases hone : EndsInOne count
    · obtain ⟨hslavic, hpolish⟩ := form_of_endsInOne hone hcount
      simp [hslavic, hpolish, hone, hcount]
    · have hsame : polish.form count = slavic.form count := by
        rw [form_polish, form_slavic, if_neg hcount, if_neg hone]
      simp [hsame, hone]

end

/-- The Polish rule has other forms than the Slavic one just for the numbers, other than one, that
end in one. Lithuanian and Latvian have a form of their own for all numbers that do, as Slavic has,
and the few of Slavic are among the few of Lithuanian. -/
theorem related_forms_agree (count : Int) :
    (polish.form count = 1 ↔ slavic.form count = 1) ∧
    (polish.form count ≠ slavic.form count ↔
      remainder count 10 = 1 ∧ remainder count 100 ≠ 11 ∧ count ≠ 1) ∧
    (polish.form count ≠ slavic.form count → slavic.form count = 0 ∧ polish.form count = 2) ∧
    (lithuanian.form count = 0 ↔ slavic.form count = 0) ∧
    (slavic.form count = 1 → lithuanian.form count = 1) ∧
    (latvian.form count = 1 ↔ slavic.form count = 0) := by
  refine ⟨?_, ?_, ?_, ?_, ?_, ?_⟩
  · rw [form_polish_eq_one_iff, form_slavic_eq_one_iff]
  · rw [form_polish_ne_slavic_iff, EndsInOne, and_assoc]
  · intro hne
    obtain ⟨hone, hcount⟩ := form_polish_ne_slavic_iff.1 hne
    exact form_of_endsInOne hone hcount
  · rw [form_lithuanian_eq_zero_iff, form_slavic_eq_zero_iff]
  · intro hslavic
    exact form_lithuanian_of_endsInFew ((form_slavic_eq_one_iff count).1 hslavic)
  · rw [form_latvian_eq_one_iff, form_slavic_eq_zero_iff]

end Family
end PluralMessage.Plural
