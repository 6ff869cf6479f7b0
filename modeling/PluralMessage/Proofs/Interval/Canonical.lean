import PluralMessage.Proofs.Interval.Printing
import PluralMessage.Proofs.Interval.Recognition

/-!
The written form of an interval is canonical: whatever was read can be written, what is written is
read back, and two texts stand for one interval exactly if they have one written form.
-/
namespace PluralMessage

theorem Decimal.short_of_natAbs_lt {n : Int} (h : n.natAbs < 10 ^ maxDigits) : Short n :=
  (Nat.length_toDigits_le_iff (by decide) (by decide)).2 h

theorem Bound.eq_finite_of_finite? {b : Bound} {n : Int} (h : b.finite? = some n) :
    b = .finite n := by
  cases b with
  | finite m => exact congrArg Bound.finite (Option.some.inj h)
  | negInf | posInf => cases h

namespace Interval

/-! A number is not longer than the numeral that it was read from. -/

theorem Numeral.short_value {n : Numeral} (h : n.Fits) : Decimal.Short n.value := by
  have hwhole : Decimal.value n.whole.chars < 10 ^ Decimal.maxDigits :=
    calc Decimal.value n.whole.chars
        < (0 + 1) * 10 ^ n.whole.chars.length := ofDigitChars_lt n.whole.isDigit 0
      _ = 10 ^ n.whole.chars.length := by rw [Nat.zero_add, Nat.one_mul]
      _ ≤ 10 ^ Decimal.maxDigits := Nat.pow_le_pow_right (by decide) h
  apply Decimal.short_of_natAbs_lt
  rwa [value_eq, Decimal.natAbs_signed]

theorem BoundExpr.short_value {b : BoundExpr} (h : b.Fits) {n : Int}
    (hn : b.value = .finite n) : Decimal.Short n := by
  cases b with
  | number m =>
      cases hn
      exact Numeral.short_value h
  | minusInf | plusInf | inf | star => cases hn

theorem Expression.short_value {e : Expression} (h : e.Fits) : e.value.Short := by
  cases e with
  | set before first more after =>
      intro n hn
      rcases List.mem_cons.1 hn with rfl | hn
      · exact Numeral.short_value h.1
      · obtain ⟨item, hitem, rfl⟩ := List.mem_map.1 hn
        exact Numeral.short_value (h.2 item hitem)
  | range opening b1 lower b2 b3 upper b4 closing =>
      constructor
      · intro n hn
        exact BoundExpr.short_value h.1 (Bound.eq_finite_of_finite? hn)
      · intro n hn
        exact BoundExpr.short_value h.2 hn

theorem short_of_read {text : List Char} {i : Interval} (h : read text = .ok i) : i.Short := by
  obtain ⟨e, -, hfits, rfl⟩ := read_eq_ok_iff.1 h
  exact Expression.short_value hfits

/-- Short or not, two intervals are not written alike, for a text has one derivation. -/
theorem print_injective {i j : Interval} (h : i.print = j.print) : i = j := by
  have htext : i.derivation.text = j.derivation.text := by
    rw [text_derivation, text_derivation, h]
  rw [← value_derivation i, Expression.text_injective htext, value_derivation]

/-- What is read can be written. What is written has neither blanks nor bars, is read back, and is
found at the front of any text; so texts that are read alike are those that are written alike. -/
theorem print_canonical :
    (∀ text i, read text = .ok i → i.Short) ∧
    (∀ i : Interval, i.Short →
      (∀ c ∈ i.print, Text.isBlank c = false ∧ c ≠ '|') ∧
      read i.print = .ok i ∧ ∀ rest, search (i.print ++ rest) = .ok (some i)) ∧
    ∀ s t i j, read s = .ok i → read t = .ok j → (i = j ↔ i.print = j.print) := by
  refine ⟨fun text i h => short_of_read h, ?_, ?_⟩
  · intro i h
    refine ⟨?_, read_print h, search_print h⟩
    intro c hc
    refine ⟨not_isBlank_of_mem_print hc, ?_⟩
    rintro rfl
    exact absurd (isPrinted_of_mem_print hc) (by decide)
  · intro s t i j _ _
    exact ⟨congrArg print, print_injective⟩

/-- Two spellings of one interval, the written form of which is the second. -/
theorem print_canonical_spellings :
    ∃ i : Interval, read "[*, 02.5[".toList = .ok i ∧ read "[-Inf,2[".toList = .ok i ∧ i.Short ∧
      i.print = "[-Inf,2[".toList ∧ search (i.print ++ " or {3}".toList) = .ok (some i) := by
  obtain ⟨hshort, hprint, -⟩ := print_canonical
  have hread : read "[*, 02.5[".toList = .ok (.range .left none (.finite 2) .left) := by decide
  have hrange := hshort _ _ hread
  obtain ⟨-, -, hsearch⟩ := hprint _ hrange
  exact ⟨_, hread, by decide, hrange, by decide, hsearch _⟩

end Interval
end PluralMessage
