import Mathlib.Tactic.Linarith
import Mathlib.Tactic.Positivity
import PluralMessage.Interval.Parser
import PluralMessage.Proofs.Decimal
import PluralMessage.Proofs.Except
import PluralMessage.Proofs.Interval.Grammar
import PluralMessage.Proofs.Text.Run

/-!
Numerals: their value is the integer part with the sign, the reader of numbers accepts exactly their
texts, and a numeral is found again in a text that goes on neither with a digit nor with a point.
-/
namespace PluralMessage.Interval

theorem Digits.exists_cons (d : Digits) :
    ∃ c rest, d.chars = c :: rest ∧ c.isDigit = true := by
  cases h : d.chars with
  | nil => exact absurd h d.chars_ne_nil
  | cons c rest => exact ⟨c, rest, rfl, d.isDigit c (by simp [h])⟩

theorem isDigit_toNat {c : Char} (h : c.isDigit = true) : 48 ≤ c.toNat ∧ c.toNat ≤ 57 := by
  simp only [Char.isDigit, Bool.and_eq_true, decide_eq_true_eq, ge_iff_le,
    UInt32.le_iff_toNat_le] at h
  exact h

theorem not_isBlank_of_isDigit {c : Char} (h : c.isDigit = true) : Text.isBlank c = false := by
  have := isDigit_toNat h
  simp only [Text.isBlank]
  grind

namespace Numeral

/-- A run of digits is below the power of ten with as many zeros. -/
theorem ofDigitChars_lt {digits : List Char} (h : ∀ c ∈ digits, c.isDigit = true) (init : Nat) :
    Nat.ofDigitChars 10 digits init < (init + 1) * 10 ^ digits.length := by
  refine Decimal.foldl_lt (fun c hc => ?_) init
  have hc := isDigit_toNat (h c hc)
  have hz : '0'.toNat = 48 := rfl
  omega

theorem fractionValue_nonneg (fraction : Option Digits) : 0 ≤ fractionValue fraction := by
  cases fraction with
  | none => exact le_refl 0
  | some d => simp only [fractionValue]; positivity

theorem fractionValue_lt_one (fraction : Option Digits) : fractionValue fraction < 1 := by
  cases fraction with
  | none => exact zero_lt_one
  | some d =>
      have h := ofDigitChars_lt d.isDigit 0
      rw [Nat.zero_add, Nat.one_mul] at h
      simp only [fractionValue]
      rw [div_lt_one (by positivity)]
      exact_mod_cast h

/-- Cutting the fraction off is rounding toward zero. -/
theorem value_eq (n : Numeral) : n.value =
    if n.negative then -(Decimal.value n.whole.chars : Int) else Decimal.value n.whole.chars := by
  have h0 := fractionValue_nonneg n.fraction
  have h1 := fractionValue_lt_one n.fraction
  have hw : (0 : ℚ) ≤ Decimal.value n.whole.chars := Nat.cast_nonneg _
  have hfloor : ⌊(Decimal.value n.whole.chars : ℚ) + fractionValue n.fraction⌋ =
      Decimal.value n.whole.chars := by
    rw [Int.floor_eq_iff, Int.cast_natCast]
    constructor <;> linarith
  cases hn : n.negative with
  | false =>
      simp only [value, decimal, hn, truncate, Bool.false_eq_true, ↓reduceIte]
      rw [if_neg (by linarith), hfloor]
  | true =>
      simp only [value, decimal, hn, truncate, ↓reduceIte]
      split
      · rw [Int.ceil_neg, hfloor]
      · -- Minus zero: a whole part of zeros and a fraction that adds nothing.
        rename_i hneg
        have hzero : (Decimal.value n.whole.chars : ℚ) = 0 := by linarith
        have hf : fractionValue n.fraction = 0 := by linarith
        rw [hzero, hf, Nat.cast_eq_zero.1 hzero]
        simp

/-- What may stand behind a numeral without being a part of it. -/
def Delimited (rest : List Char) : Prop :=
  Text.Clear (fun c => c.isDigit || c == '.') rest

theorem Delimited.clear_isDigit {rest : List Char} (h : Delimited rest) :
    Text.Clear Char.isDigit rest := by
  intro c hc
  have := h c hc
  simp only [Bool.or_eq_false_iff] at this
  exact this.1

theorem clear_isDigit_point {rest : List Char} (h : Delimited rest) (fraction : Option Digits) :
    Text.Clear Char.isDigit (point fraction ++ rest) := by
  cases fraction with
  | none => exact h.clear_isDigit
  | some d => exact Text.clear_cons.2 (by decide)

/-! Reading: first the texts of numerals, then whatever a reader accepts. -/

theorem skipFraction_point {rest : List Char} (h : Delimited rest) (fraction : Option Digits) :
    skipFraction (point fraction ++ rest) = rest := by
  cases fraction with
  | none =>
      rw [point, List.nil_append, skipFraction.eq_def]
      split
      · exact absurd (h '.' rfl) (by decide)
      · rfl
  | some d =>
      obtain ⟨c, more, hd, hc⟩ := d.exists_cons
      have hmore : ∀ c ∈ more, c.isDigit = true := fun e he => d.isDigit e (by simp [hd, he])
      simp only [point, hd, List.cons_append, skipFraction, hc, ↓reduceIte]
      exact Text.dropWhile_run hmore h.clear_isDigit

theorem readDigits_run {whole : Digits} {rest : List Char} (start : List Char)
    (fraction : Option Digits) (hw : whole.chars.length ≤ Decimal.maxDigits)
    (hr : Delimited rest) :
    readDigits start (whole.chars ++ (point fraction ++ rest)) =
      .ok (Decimal.value whole.chars, rest) := by
  have hp := clear_isDigit_point hr fraction
  have hne : whole.chars.isEmpty = false := by simp [whole.chars_ne_nil]
  simp only [readDigits, Text.takeWhile_run whole.isDigit hp, Text.dropWhile_run whole.isDigit hp,
    skipFraction_point hr, hne, Decimal.read, if_pos hw, Bool.false_eq_true, ↓reduceIte]

theorem readSigned_text {n : Numeral} {rest : List Char} (hn : n.Fits) (hr : Delimited rest) :
    readSigned (n.text ++ rest) = .ok (n.value, rest) := by
  rw [value_eq, text, sign, List.append_assoc, List.append_assoc]
  cases n.negative with
  | true =>
      simp only [↓reduceIte, List.cons_append, List.nil_append, readSigned]
      rw [readDigits_run _ n.fraction hn hr]
      rfl
  | false =>
      obtain ⟨c, more, hw, hc⟩ := n.whole.exists_cons
      simp only [Bool.false_eq_true, ↓reduceIte, List.nil_append, readSigned.eq_def]
      split
      · rename_i tail ht
        rw [hw, List.cons_append] at ht
        obtain ⟨rfl, -⟩ := List.cons.inj ht
        exact absurd hc (by decide)
      · rw [readDigits_run _ n.fraction hn hr]
        rfl

theorem exists_point_skipFraction (s : List Char) :
    ∃ fraction, s = point fraction ++ skipFraction s := by
  rw [skipFraction.eq_def]
  split
  · rename_i c rest
    split
    · rename_i hc
      refine ⟨some ⟨c :: rest.takeWhile Char.isDigit, by simp, ?_⟩, ?_⟩
      · intro d hd
        rcases List.mem_cons.1 hd with rfl | hd
        · exact hc
        · exact List.all_eq_true.1 List.all_takeWhile d hd
      · simp [point]
    · exact ⟨none, rfl⟩
  · exact ⟨none, rfl⟩

theorem exists_of_readDigits {start s rest : List Char} {v : Nat}
    (h : readDigits start s = .ok (v, rest)) :
    ∃ (whole : Digits) (fraction : Option Digits), s = whole.chars ++ (point fraction ++ rest) ∧
      whole.chars.length ≤ Decimal.maxDigits ∧ v = Decimal.value whole.chars := by
  unfold readDigits at h
  simp only [Decimal.read] at h
  split at h
  · cases h
  · rename_i hne
    split at h
    · rename_i n hn
      split at hn
      · rename_i hlen
        cases hn
        cases h
        obtain ⟨fraction, hf⟩ := exists_point_skipFraction (s.dropWhile Char.isDigit)
        refine ⟨⟨s.takeWhile Char.isDigit, by simpa using hne,
          List.all_eq_true.1 List.all_takeWhile⟩, fraction, ?_, hlen, rfl⟩
        rw [← hf, List.takeWhile_append_dropWhile]
      · cases hn
    · cases h

theorem exists_of_readSigned {s rest : List Char} {v : Int}
    (h : readSigned s = .ok (v, rest)) :
    ∃ n : Numeral, s = n.text ++ rest ∧ n.Fits ∧ n.value = v := by
  unfold readSigned at h
  split at h
  · rename_i tail
    obtain ⟨⟨m, r⟩, hd, heq⟩ := Except.map_eq_ok.1 h
    obtain ⟨rfl, rfl⟩ := Prod.mk.inj heq
    obtain ⟨whole, fraction, rfl, hlen, rfl⟩ := exists_of_readDigits hd
    exact ⟨⟨true, whole, fraction⟩, by simp [text, sign], hlen, value_eq _⟩
  · obtain ⟨⟨m, r⟩, hd, heq⟩ := Except.map_eq_ok.1 h
    obtain ⟨rfl, rfl⟩ := Prod.mk.inj heq
    obtain ⟨whole, fraction, hs, hlen, rfl⟩ := exists_of_readDigits hd
    exact ⟨⟨false, whole, fraction⟩, by simpa [text, sign] using hs, hlen, value_eq _⟩

/-! A numeral is determined by a text that starts with it. -/

theorem sign_unique {n m : Numeral} {s t : List Char}
    (h : n.sign ++ (n.whole.chars ++ s) = m.sign ++ (m.whole.chars ++ t)) :
    n.negative = m.negative ∧ n.whole.chars ++ s = m.whole.chars ++ t := by
  obtain ⟨c, cs, hn, hc⟩ := n.whole.exists_cons
  obtain ⟨d, ds, hm, hd⟩ := m.whole.exists_cons
  unfold sign at h
  cases hneg : n.negative <;> cases hmneg : m.negative <;>
    simp only [hneg, hmneg, hn, hm, ↓reduceIte, Bool.false_eq_true, List.nil_append,
      List.cons_append, List.cons.injEq] at h
  case false.false => simp [hn, hm, h]
  case false.true => exact absurd hc (by rw [h.1]; decide)
  case true.false => exact absurd hd (by rw [← h.1]; decide)
  case true.true => simp [hn, hm, h]

theorem point_unique {f g : Option Digits} {s t : List Char} (hs : Delimited s)
    (ht : Delimited t) (h : point f ++ s = point g ++ t) : f = g ∧ s = t := by
  cases f with
  | none =>
      cases g with
      | none => exact ⟨rfl, h⟩
      | some e =>
          rw [point, point, List.nil_append, List.cons_append] at h
          exact absurd (hs '.' (by rw [h]; rfl)) (by decide)
  | some d =>
      cases g with
      | none =>
          rw [point, point, List.nil_append, List.cons_append] at h
          exact absurd (ht '.' (by rw [← h]; rfl)) (by decide)
      | some e =>
          obtain ⟨hchars, hrest⟩ := Text.run_unique d.isDigit e.isDigit hs.clear_isDigit
            ht.clear_isDigit (List.cons.inj h).2
          exact ⟨congrArg some (Digits.ext hchars), hrest⟩

theorem text_unique {n m : Numeral} {s t : List Char} (hs : Delimited s) (ht : Delimited t)
    (h : n.text ++ s = m.text ++ t) : n = m ∧ s = t := by
  simp only [text, List.append_assoc] at h
  obtain ⟨hneg, h⟩ := sign_unique h
  obtain ⟨hwhole, h⟩ := Text.run_unique n.whole.isDigit m.whole.isDigit
    (clear_isDigit_point hs _) (clear_isDigit_point ht _) h
  obtain ⟨hfraction, h⟩ := point_unique hs ht h
  exact ⟨Numeral.ext hneg (Digits.ext hwhole) hfraction, h⟩

end Numeral
end PluralMessage.Interval
