import Mathlib.Algebra.Group.Nat.Defs
import PluralMessage.Decimal.Typed

/-!
The size of numbers in decimal. A run of digits is below the power of ten with as many zeros, so a
number that is typed within the limit on digits can be written within it.
-/
namespace PluralMessage.Decimal

/-- What digits add up to, behind the number that was read before them. -/
theorem foldl_lt {α : Type} {digit : α → Nat} {s : List α} (h : ∀ a ∈ s, digit a < 10)
    (start : Nat) :
    s.foldl (fun n a => 10 * n + digit a) start < (start + 1) * 10 ^ s.length := by
  induction s generalizing start with
  | nil => simp
  | cons a s ih =>
      have ha := h a List.mem_cons_self
      rw [List.foldl_cons, List.length_cons, Nat.pow_succ']
      calc s.foldl (fun n a => 10 * n + digit a) (10 * start + digit a)
          < (10 * start + digit a + 1) * 10 ^ s.length :=
            ih (fun b hb => h b (List.mem_cons_of_mem a hb)) _
        _ ≤ ((start + 1) * 10) * 10 ^ s.length := Nat.mul_le_mul_right _ (by omega)
        _ = (start + 1) * (10 * 10 ^ s.length) := Nat.mul_assoc _ _ _

theorem lt_ten_of_digitValue? {c : Char} {d : Nat} (h : Text.digitValue? c = some d) :
    d < 10 := by
  obtain ⟨start, hstart, rfl⟩ := Option.map_eq_some_iff.1 h
  have hcovers := List.find?_some hstart
  simp only [Bool.and_eq_true, decide_eq_true_eq] at hcovers
  omega

theorem lt_ten_of_map_cons {d : Nat} {rest : Option (List Nat)} {ds : List Nat} (hd : d < 10)
    (hrest : ∀ {ds}, rest = some ds → ∀ d ∈ ds, d < 10) (h : rest.map (d :: ·) = some ds) :
    ∀ d ∈ ds, d < 10 := by
  obtain ⟨more, hmore, rfl⟩ := Option.map_eq_some_iff.1 h
  exact List.forall_mem_cons.2 ⟨hd, hrest hmore⟩

theorem lt_ten_of_digitValues? {s : List Char} {ds : List Nat} (h : digitValues? s = some ds) :
    ∀ d ∈ ds, d < 10 := by
  fun_induction digitValues? s generalizing ds with
  | case1 =>
      cases h
      exact List.forall_mem_nil _
  | case2 c =>
      obtain ⟨d, hd, rfl⟩ := Option.map_eq_some_iff.1 h
      exact List.forall_mem_singleton.2 (lt_ten_of_digitValue? hd)
  | case3 | case5 | case7 => cases h
  | case4 c d s _ hd ih => exact lt_ten_of_map_cons (lt_ten_of_digitValue? hd) ih h
  | case6 c s _ _ d hd ih => exact lt_ten_of_map_cons (lt_ten_of_digitValue? hd) ih h

theorem ofInt?_of_natAbs_lt {n : Int} (h : n.natAbs < 10 ^ maxDigits) :
    ofInt? n = some (ofInt n) := by
  have hlength : (ofNat n.natAbs).length ≤ maxDigits :=
    (Nat.length_toDigits_le_iff (by decide) (by decide)).2 h
  rw [ofInt?, if_pos hlength]

theorem natAbs_signed (negative : Bool) (n : Nat) :
    (if negative then -(n : Int) else n).natAbs = n := by
  cases negative <;> simp

/-- A number that is typed can be written. -/
theorem ofInt?_of_ofTyped? {s : List Char} {n : Int} (h : ofTyped? s = some n) :
    ofInt? n = some (ofInt n) := by
  simp only [ofTyped?] at h
  split at h
  · cases h
  · cases h
  · rename_i ds _ hds
    split at h
    · cases h
    · rename_i hlength
      have hvalue : ds.foldl (fun n d => 10 * n + d) 0 < 10 ^ maxDigits := by
        calc ds.foldl (fun n d => 10 * n + d) 0
            < (0 + 1) * 10 ^ ds.length := foldl_lt (lt_ten_of_digitValues? hds) 0
          _ = 10 ^ ds.length := by rw [Nat.zero_add, Nat.one_mul]
          _ ≤ 10 ^ maxDigits := Nat.pow_le_pow_right (by decide) (Nat.le_of_not_lt hlength)
      cases h
      apply ofInt?_of_natAbs_lt
      rwa [natAbs_signed]

end PluralMessage.Decimal
