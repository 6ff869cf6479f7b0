import Mathlib.Order.WithBotTop
import PluralMessage.Error
import PluralMessage.Proofs.Interval.Unambiguity

/-!
What intervals mean. A text is accepted exactly if it is an expression of the grammar with blanks
around it, and a count lies in it exactly if the expression admits the count.
-/
namespace PluralMessage.Interval

theorem read_eq_ok_iff {text : List Char} {i : Interval} :
    read text = .ok i ↔
      ∃ e : Expression, e.text = Text.trim text ∧ e.Fits ∧ e.value = i := by
  constructor
  · intro h
    simp only [read] at h
    split at h
    · rename_i i' hi
      cases h
      obtain ⟨e, he, hfits, hvalue⟩ := readFront_eq_ok_iff.1 hi
      exact ⟨e, by rw [he, List.append_nil], hfits, hvalue⟩
    · cases h
    · cases h
    · cases h
  · rintro ⟨e, he, hfits, rfl⟩
    have h := readFront_text hfits []
    rw [List.append_nil, he] at h
    simp only [read, h]

/-! The ends of a range, compared with a count. -/

theorem finiteEnd_le {a b : Int} : finiteEnd a ≤ finiteEnd b ↔ a ≤ b := by
  rw [finiteEnd, finiteEnd, WithBot.coe_le_coe, WithTop.coe_le_coe]

theorem finiteEnd_lt {a b : Int} : finiteEnd a < finiteEnd b ↔ a < b := by
  rw [finiteEnd, finiteEnd, WithBot.coe_lt_coe, WithTop.coe_lt_coe]

theorem bot_lt_finiteEnd (n : Int) : ⊥ < finiteEnd n :=
  WithBot.bot_lt_coe _

theorem finiteEnd_lt_top (n : Int) : finiteEnd n < ⊤ :=
  WithBot.coe_lt_coe.2 (WithTop.coe_lt_top n)

theorem aboveLower_iff {opening : Bracket} {b : BoundExpr} {count : Int} :
    aboveLower opening b.value.finite? count = true ↔
      match opening with
      | .left => b.lowerEnd ≤ finiteEnd count
      | .right => b.lowerEnd < finiteEnd count := by
  cases b with
  | number n =>
      cases opening <;>
        simp [aboveLower, BoundExpr.value, Bound.finite?, BoundExpr.lowerEnd,
          Bracket.includesLower, finiteEnd_le, finiteEnd_lt]
  | minusInf | plusInf | inf | star =>
      cases opening <;>
        simp [aboveLower, BoundExpr.value, Bound.finite?, BoundExpr.lowerEnd, bot_lt_finiteEnd]

theorem belowUpper_iff {closing : Bracket} {b : BoundExpr} {count : Int} :
    belowUpper b.value closing count = true ↔
      match closing with
      | .left => finiteEnd count < b.upperEnd
      | .right => finiteEnd count ≤ b.upperEnd := by
  cases b with
  | number n =>
      cases closing <;>
        simp [belowUpper, BoundExpr.value, BoundExpr.upperEnd, Bracket.includesUpper,
          finiteEnd_le, finiteEnd_lt]
  | minusInf =>
      cases closing <;>
        simp [belowUpper, BoundExpr.value, BoundExpr.upperEnd, (bot_lt_finiteEnd count).ne']
  | plusInf | inf | star =>
      cases closing <;>
        simp [belowUpper, BoundExpr.value, BoundExpr.upperEnd, finiteEnd_lt_top]

theorem contains_value_iff {e : Expression} {count : Int} :
    e.value.contains count = true ↔ e.Admits count := by
  cases e with
  | set before first more after =>
      simp only [Expression.value, Expression.Admits, contains_set, List.mem_cons, List.mem_map,
        @eq_comm Int count]
  | range opening b1 lower b2 b3 upper b4 closing =>
      rw [Expression.value, contains_range, aboveLower_iff, belowUpper_iff]
      rfl

/-! The same for requests, in which both the count and the interval are values. -/

theorem readInterval_text_eq_ok_iff {s : String} {i : Interval} :
    Value.readInterval (.text s) = .ok i ↔ read s.toList = .ok i := by
  cases h : read s.toList <;> simp [Value.readInterval, h, Except.mapError]

theorem test_eq_ok_iff {s : String} {count : Int} {b : Bool} :
    test (.int count) (.text s) = .ok b ↔ ∃ i, read s.toList = .ok i ∧ i.contains count = b := by
  cases h : read s.toList <;>
    simp [test, Value.readCount, Value.readInterval, h, Except.mapError, bind, Except.bind, pure,
      Except.pure]

/-- The accepted texts are the expressions of the grammar, up to blanks at their ends, whose
numerals are not too long; there is one derivation of each and the result is its value. A count of
any size is in the interval exactly if the derivation admits it. -/
theorem readInterval_and_test_iff_expression (s : String) :
    (∀ i, Value.readInterval (.text s) = .ok i ↔
      ∃ e : Expression, e.text = Text.trim s.toList ∧ e.Fits ∧ e.value = i) ∧
    (∀ e f : Expression, e.text = Text.trim s.toList → f.text = Text.trim s.toList → e = f) ∧
    ∀ (count : Int) (b : Bool), test (.int count) (.text s) = .ok b ↔
      ∃ e : Expression, e.text = Text.trim s.toList ∧ e.Fits ∧ (b = true ↔ e.Admits count) := by
  refine ⟨?_, ?_, ?_⟩
  · intro i
    rw [readInterval_text_eq_ok_iff, read_eq_ok_iff]
  · intro e f he hf
    exact Expression.text_injective (he.trans hf.symm)
  · intro count b
    rw [test_eq_ok_iff]
    constructor
    · rintro ⟨i, hi, rfl⟩
      obtain ⟨e, he, hfits, rfl⟩ := read_eq_ok_iff.1 hi
      exact ⟨e, he, hfits, contains_value_iff⟩
    · rintro ⟨e, he, hfits, hb⟩
      refine ⟨e.value, read_eq_ok_iff.2 ⟨e, he, hfits, rfl⟩, ?_⟩
      rw [Bool.eq_iff_iff, contains_value_iff, hb]

end PluralMessage.Interval
