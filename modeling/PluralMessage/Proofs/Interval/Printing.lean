import PluralMessage.Proofs.Interval.Search
import PluralMessage.Proofs.Text.Trim

/-!
The written form of an interval is an expression without blanks whose value is the interval, so it
is read back whatever follows it.
-/
namespace PluralMessage

namespace Decimal

/-- The number has no more digits than may be read. -/
def Short (n : Int) : Prop :=
  (ofNat n.natAbs).length ≤ maxDigits

instance : DecidablePred Short :=
  fun n => inferInstanceAs (Decidable ((ofNat n.natAbs).length ≤ maxDigits))

end Decimal

namespace Interval

/-- All numbers of the interval can be read. -/
def Short : Interval → Prop
  | set first more => ∀ n ∈ first :: more, Decimal.Short n
  | range _ lower upper _ =>
      (∀ n, lower = some n → Decimal.Short n) ∧ ∀ n, upper = .finite n → Decimal.Short n

/-! The derivation of the written form. -/

def digitsOf (n : Nat) : Digits where
  chars := Decimal.ofNat n
  chars_ne_nil := Nat.toDigits_ne_nil
  isDigit := fun _ => Decimal.isDigit_of_mem_ofNat

def numeralOf (n : Int) : Numeral where
  negative := decide (n < 0)
  whole := digitsOf n.natAbs
  fraction := none

def boundOf : Bound → BoundExpr
  | .negInf => .minusInf
  | .finite n => .number (numeralOf n)
  | .posInf => .plusInf

/-- The one derivation of the written form. -/
def derivation : Interval → Expression
  | set first more =>
      .set noBlanks (numeralOf first) (more.map fun n => ⟨noBlanks, noBlanks, numeralOf n⟩) noBlanks
  | range opening lower upper closing =>
      .range opening noBlanks (boundOf (.ofLower lower)) noBlanks noBlanks (boundOf upper) noBlanks
        closing

theorem text_numeralOf (n : Int) : (numeralOf n).text = Decimal.ofInt n := by
  cases n with
  | ofNat n =>
      simp [Numeral.text, Numeral.sign, Numeral.point, numeralOf, digitsOf, Decimal.ofInt]
  | negSucc n =>
      have hsign : Int.negSucc n < 0 := Int.negSucc_lt_zero n
      simp [Numeral.text, Numeral.sign, Numeral.point, numeralOf, digitsOf, Decimal.ofInt, hsign]

theorem value_numeralOf (n : Int) : (numeralOf n).value = n := by
  rw [Numeral.value_eq]
  simp only [numeralOf, digitsOf, Decimal.value_ofNat, decide_eq_true_eq]
  split <;> omega

theorem text_boundOf (b : Bound) : (boundOf b).text = b.print := by
  cases b with
  | finite n => exact text_numeralOf n
  | negInf | posInf => rfl

theorem value_boundOf (b : Bound) : (boundOf b).value = b := by
  cases b with
  | finite n => exact congrArg Bound.finite (value_numeralOf n)
  | negInf | posInf => rfl

theorem printMore_eq_flatMap (more : List Int) :
    printMore more = more.flatMap fun n => ',' :: Decimal.ofInt n := by
  induction more with
  | nil => rfl
  | cons n more ih => rw [printMore, ih, List.flatMap_cons]

theorem text_derivation (i : Interval) : i.derivation.text = i.print := by
  cases i with
  | set first more =>
      simp [derivation, Expression.text, print, printMore_eq_flatMap, List.flatMap_map, Item.text,
        noBlanks, text_numeralOf]
  | range opening lower upper closing =>
      simp [derivation, Expression.text, print, text_boundOf, noBlanks]

theorem value_derivation (i : Interval) : i.derivation.value = i := by
  cases i with
  | set first more => simp [derivation, Expression.value, value_numeralOf, Function.comp_def]
  | range opening lower upper closing =>
      have hlower : (Bound.ofLower lower).finite? = lower := by cases lower <;> rfl
      simp [derivation, Expression.value, value_boundOf, hlower]

theorem fits_boundOf {b : Bound} (h : ∀ n, b = .finite n → Decimal.Short n) :
    (boundOf b).Fits := by
  cases b with
  | finite n => exact h n rfl
  | negInf | posInf => trivial

theorem fits_derivation {i : Interval} (h : i.Short) : i.derivation.Fits := by
  cases i with
  | set first more =>
      refine ⟨h first (by simp), ?_⟩
      intro item hitem
      obtain ⟨n, hn, rfl⟩ := List.mem_map.1 hitem
      exact h n (by simp [hn])
  | range opening lower upper closing =>
      refine ⟨fits_boundOf ?_, fits_boundOf h.2⟩
      intro n hn
      cases lower with
      | none => cases hn
      | some m =>
          cases hn
          exact h.1 n rfl

theorem readFront_print {i : Interval} (h : i.Short) (rest : List Char) :
    readFront (i.print ++ rest) = .ok (i, rest) := by
  have hread := readFront_text (fits_derivation h) rest
  rwa [text_derivation, value_derivation] at hread

theorem search_print {i : Interval} (h : i.Short) (rest : List Char) :
    search (i.print ++ rest) = .ok (some i) :=
  search_of_readFront (readFront_print h rest)

/-! The characters of a written form. -/

/-- The characters that intervals are written with. -/
def isPrinted (c : Char) : Bool :=
  c.isDigit || ['{', '}', '[', ']', ',', '-', '+', 'I', 'n', 'f'].contains c

theorem isPrinted_of_mem_ofInt {n : Int} {c : Char} (h : c ∈ Decimal.ofInt n) :
    isPrinted c = true := by
  have hdigit : ∀ {m : Nat}, c ∈ Decimal.ofNat m → isPrinted c = true := fun hm => by
    simp [isPrinted, Decimal.isDigit_of_mem_ofNat hm]
  cases n with
  | ofNat m => exact hdigit h
  | negSucc m =>
      rcases List.mem_cons.1 h with rfl | h
      · decide
      · exact hdigit h

theorem isPrinted_of_mem_bound {b : Bound} {c : Char} (h : c ∈ b.print) :
    isPrinted c = true := by
  cases b with
  | finite n => exact isPrinted_of_mem_ofInt h
  | negInf | posInf =>
      simp only [Bound.print, List.mem_cons, List.not_mem_nil, or_false] at h
      rcases h with rfl | rfl | rfl | rfl <;> decide

theorem isPrinted_of_mem_print {i : Interval} {c : Char} (h : c ∈ i.print) :
    isPrinted c = true := by
  cases i with
  | set first more =>
      simp only [print, printMore_eq_flatMap, List.cons_append, List.mem_cons, List.mem_append,
        List.mem_flatMap, List.not_mem_nil, or_false] at h
      rcases h with rfl | (h | ⟨n, -, rfl | h⟩) | rfl
      · decide
      · exact isPrinted_of_mem_ofInt h
      · decide
      · exact isPrinted_of_mem_ofInt h
      · decide
  | range opening lower upper closing =>
      simp only [print, List.cons_append, List.mem_cons, List.mem_append, List.not_mem_nil,
        or_false] at h
      rcases h with rfl | (h | rfl | h) | rfl
      · cases opening <;> decide
      · exact isPrinted_of_mem_bound h
      · decide
      · exact isPrinted_of_mem_bound h
      · cases closing <;> decide

theorem not_isBlank_of_isPrinted {c : Char} (h : isPrinted c = true) : Text.isBlank c = false := by
  simp only [isPrinted, Bool.or_eq_true, List.contains_eq_mem, List.mem_cons, List.not_mem_nil,
    or_false, decide_eq_true_eq] at h
  rcases h with h | rfl | rfl | rfl | rfl | rfl | rfl | rfl | rfl | rfl | rfl
  · exact not_isBlank_of_isDigit h
  all_goals decide

theorem not_isBlank_of_mem_print {i : Interval} {c : Char} (h : c ∈ i.print) :
    Text.isBlank c = false :=
  not_isBlank_of_isPrinted (isPrinted_of_mem_print h)

theorem read_print {i : Interval} (h : i.Short) : read i.print = .ok i := by
  have htrim : Text.trim i.print = i.print :=
    Text.trim_of_trimmed (Text.trimmed_of_no_blank fun c hc => not_isBlank_of_mem_print hc)
  have hread := readFront_print h []
  rw [List.append_nil] at hread
  simp only [read, htrim, hread]

theorem print_ne_nil (i : Interval) : i.print ≠ [] := by
  rw [← text_derivation]
  exact i.derivation.text_ne_nil

end Interval
end PluralMessage
