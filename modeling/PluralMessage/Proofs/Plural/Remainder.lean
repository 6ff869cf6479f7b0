import Mathlib.Algebra.Order.Group.Abs
import Mathlib.Algebra.Order.Group.Int
import PluralMessage.Plural.Family

/-!
The remainder that plural rules are written with. It is the one number that differs from the count
by a multiple of the divisor, lies within the divisor and does not have the other sign, so it is
what a division that truncates leaves, below zero as well as above. The remainder by a multiple of a
divisor still has the remainder by the divisor: the last digit of a count is that of its last two
digits, and these are all that rules see of a count that is negative or large.
-/
namespace PluralMessage.Plural

/-- What is left of the count when it is divided, the quotient being rounded toward zero. -/
structure Truncated (count divisor r : Int) : Prop where
  dvd : divisor ∣ count - r
  lt : |r| < divisor
  sign : r = 0 ∨ r.sign = count.sign

namespace Truncated

variable {count divisor r r' : Int}

theorem nonneg (h : Truncated count divisor r) (hcount : 0 ≤ count) : 0 ≤ r := by
  rcases h.sign with rfl | hsign
  · exact Int.le_refl 0
  · exact Int.sign_nonneg_iff.1 (hsign ▸ Int.sign_nonneg_iff.2 hcount)

theorem nonpos (h : Truncated count divisor r) (hcount : count ≤ 0) : r ≤ 0 := by
  rcases h.sign with rfl | hsign
  · exact Int.le_refl 0
  · exact Int.sign_nonpos_iff.1 (hsign ▸ Int.sign_nonpos_iff.2 hcount)

/-- Two of them lie on one side of zero, so they are less than a divisor apart. -/
theorem unique (h : Truncated count divisor r) (h' : Truncated count divisor r') : r = r' := by
  have hdvd : divisor ∣ r - r' := by
    have := Int.dvd_sub h'.dvd h.dvd
    rwa [show count - r' - (count - r) = r - r' by omega] at this
  obtain ⟨hlow, hhigh⟩ := abs_lt.1 h.lt
  obtain ⟨hlow', hhigh'⟩ := abs_lt.1 h'.lt
  have hclose : (r - r').natAbs < divisor.natAbs := by
    rcases Int.le_total 0 count with hcount | hcount
    · have hr := h.nonneg hcount
      have hr' := h'.nonneg hcount
      omega
    · have hr := h.nonpos hcount
      have hr' := h'.nonpos hcount
      omega
  have hzero := Int.eq_zero_of_dvd_of_natAbs_lt_natAbs hdvd hclose
  omega

end Truncated

section
variable {divisor : Int} (h : 0 < divisor) (count : Int)
include h

theorem truncated_remainder : Truncated count divisor (remainder count divisor) := by
  rw [remainder_eq_tmod h]
  refine ⟨Int.dvd_self_sub_tmod, ?_, ?_⟩
  · exact abs_lt.2 ⟨Int.lt_tmod_of_pos count h, Int.tmod_lt_of_pos count h⟩
  · rw [Int.sign_tmod]
    by_cases hdvd : divisor ∣ count
    · exact .inl (Int.tmod_eq_zero_of_dvd hdvd)
    · exact .inr (if_neg hdvd)

theorem truncated_iff {r : Int} : Truncated count divisor r ↔ r = remainder count divisor := by
  constructor
  · intro hr
    exact hr.unique (truncated_remainder h count)
  · rintro rfl
    exact truncated_remainder h count

theorem remainder_neg : remainder (-count) divisor = -remainder count divisor := by
  rw [remainder_eq_tmod h, remainder_eq_tmod h, Int.neg_tmod]

theorem remainder_remainder {factor : Int} (hfactor : 0 < factor) :
    remainder (remainder count (factor * divisor)) divisor = remainder count divisor := by
  have hproduct : 0 < factor * divisor := Int.mul_pos hfactor h
  rw [remainder_eq_tmod h, remainder_eq_tmod hproduct, remainder_eq_tmod h,
    Int.tmod_tmod_of_dvd _ (Int.dvd_mul_left factor divisor)]

end

theorem lastDigit_of_lastTwo (count : Int) :
    remainder (remainder count 100) 10 = remainder count 10 := by
  have hten : (0 : Int) < 10 := by decide
  exact remainder_remainder hten count hten

/-- No rule names a count beyond 0 to 11, so the last two digits of such a count tell its form. -/
theorem Family.form_congr_of_lastTwo (family : Family) {a b : Int} (ha : a < 0 ∨ 11 < a)
    (hb : b < 0 ∨ 11 < b) (h : remainder a 100 = remainder b 100) :
    family.form a = family.form b := by
  have hlast : remainder a 10 = remainder b 10 := by
    rw [← lastDigit_of_lastTwo a, ← lastDigit_of_lastTwo b, h]
  have hzero : a ≠ 0 ∧ b ≠ 0 := by omega
  -- Tests of the count itself fail for both, which leaves the tests of the remainders.
  cases family <;>
    simp (disch := omega) only [form, if_neg, hlast, h, hzero, false_or]

/-- The remainder is the truncated one, turns its sign with the count, and by a multiple of the
divisor keeps the remainder by the divisor. So the last digit that rules test is that of the last
two digits, and counts beyond 0 to 11 that agree in these have the same form in every family. -/
theorem remainder_truncates {divisor : Int} (h : 0 < divisor) (count : Int) :
    remainder? count divisor = some (remainder count divisor) ∧
    (∀ r, Truncated count divisor r ↔ r = remainder count divisor) ∧
    remainder (-count) divisor = -remainder count divisor ∧
    (∀ factor : Int, 0 < factor →
      remainder (remainder count (factor * divisor)) divisor = remainder count divisor) ∧
    remainder (remainder count 100) 10 = remainder count 10 ∧
    ∀ (family : Family) (other : Int), count < 0 ∨ 11 < count → other < 0 ∨ 11 < other →
      remainder count 100 = remainder other 100 → family.form count = family.form other := by
  have hne : divisor ≠ 0 := by omega
  refine ⟨if_neg hne, fun r => truncated_iff h count, remainder_neg h count, ?_,
    lastDigit_of_lastTwo count, ?_⟩
  · intro factor hfactor
    exact remainder_remainder h count hfactor
  · intro family other hcount hother hlastTwo
    exact family.form_congr_of_lastTwo hcount hother hlastTwo

theorem remainder_truncates_below_zero :
    (0 : Int) < 10 ∧ remainder? (-1121) 10 = some (-1) ∧ Truncated (-1121) 10 (-1) ∧
      remainder 1121 10 = 1 ∧ remainder (remainder (-1121) 120) 10 = -1 ∧
      Family.arabic.form (-1121) = Family.arabic.form (-21) := by
  have hten : (0 : Int) < 10 := by decide
  obtain ⟨hsome, htruncated, hneg, hproduct, -, hform⟩ := remainder_truncates hten (-1121)
  have hremainder : remainder (-1121) 10 = -1 := by decide
  rw [hremainder] at hsome htruncated hneg hproduct
  exact ⟨hten, hsome, (htruncated (-1)).2 rfl, hneg, hproduct 12 (by decide),
    hform .arabic (-21) (by decide) (by decide) (by decide)⟩

end PluralMessage.Plural
