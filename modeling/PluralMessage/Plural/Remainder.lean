/-!
The remainder that plural rules are written with: it takes the sign of the count.
-/
namespace PluralMessage.Plural

/-- The remainder of the absolute value, rounded toward minus infinity as its divisor asks, with the
sign of the count. For a positive divisor this is the remainder that truncates. -/
def remainder (count divisor : Int) : Int :=
  let r := (count.natAbs : Int).fmod divisor
  if count < 0 then -r else r

theorem remainder_eq_tmod {divisor : Int} (h : 0 < divisor) (count : Int) :
    remainder count divisor = count.tmod divisor := by
  unfold remainder
  rw [Int.fmod_eq_emod_of_nonneg _ (Int.le_of_lt h)]
  split
  · rename_i hc
    have habs : (count.natAbs : Int) = -count := by omega
    rw [habs, ← Int.tmod_eq_emod_of_nonneg (by omega), Int.neg_tmod, Int.neg_neg]
  · have habs : (count.natAbs : Int) = count := by omega
    rw [habs, Int.tmod_eq_emod_of_nonneg (by omega)]

theorem remainder_of_nonneg {count divisor : Int} (h : 0 ≤ count) (hd : 0 < divisor) :
    remainder count divisor = count % divisor := by
  rw [remainder_eq_tmod hd, Int.tmod_eq_emod_of_nonneg h]

theorem remainder_nonpos {count divisor : Int} (h : count < 0) (hd : 0 < divisor) :
    remainder count divisor ≤ 0 := by
  have hneg : 0 ≤ (-count).tmod divisor := Int.tmod_nonneg divisor (by omega)
  rw [Int.neg_tmod] at hneg
  rw [remainder_eq_tmod hd]
  omega

/-- The remainder, which a divisor of zero does not have. -/
def remainder? (count divisor : Int) : Option Int :=
  if divisor = 0 then none else some (remainder count divisor)

def zeroDivisorMessage : String := "integer modulo by zero"

end PluralMessage.Plural
