import PluralMessage.Proofs.Interval.Reader
import PluralMessage.Proofs.Text.Trim

/-!
Where the delimiters of an expression stand: an opening one at its front, the closing one at its
end, and no opening one between them. So an expression never goes past an opening delimiter that
stands behind its own, whatever follows that delimiter.
-/
namespace PluralMessage.Interval

/-- None of the characters can open an interval. -/
def NoOpening (s : List Char) : Prop :=
  ∀ c ∈ s, isOpening c = false

theorem noOpening_append {s t : List Char} : NoOpening (s ++ t) ↔ NoOpening s ∧ NoOpening t :=
  List.forall_mem_append

theorem noOpening_cons {c : Char} {s : List Char} :
    NoOpening (c :: s) ↔ isOpening c = false ∧ NoOpening s :=
  List.forall_mem_cons

theorem isOpening_iff {c : Char} : isOpening c = true ↔ c = '{' ∨ c = '[' ∨ c = ']' := by
  simp [isOpening, or_assoc]

theorem not_isBlank_of_isOpening {c : Char} (h : isOpening c = true) :
    Text.isBlank c = false := by
  rcases isOpening_iff.1 h with rfl | rfl | rfl <;> decide

/-! The tokens of an expression. -/

/-- The characters of numerals and bounds. -/
def isTokenChar (c : Char) : Bool :=
  c.isDigit || ['-', '.', '+', 'I', 'n', 'f', '*'].contains c

theorem isTokenChar_of_isDigit {c : Char} (h : c.isDigit = true) : isTokenChar c = true := by
  simp [isTokenChar, h]

theorem not_isOpening_of_isTokenChar {c : Char} (h : isTokenChar c = true) :
    isOpening c = false := by
  rw [Bool.eq_false_iff]
  intro hopening
  rcases isOpening_iff.1 hopening with rfl | rfl | rfl <;> exact absurd h (by decide)

theorem not_isBlank_of_isTokenChar {c : Char} (h : isTokenChar c = true) :
    Text.isBlank c = false := by
  simp only [isTokenChar, Bool.or_eq_true, List.contains_eq_mem, List.mem_cons, List.not_mem_nil,
    or_false, decide_eq_true_eq] at h
  rcases h with h | rfl | rfl | rfl | rfl | rfl | rfl | rfl
  · exact not_isBlank_of_isDigit h
  all_goals decide

theorem Numeral.isTokenChar_text (n : Numeral) : ∀ c ∈ n.text, isTokenChar c = true := by
  have hdigits : ∀ d : Digits, ∀ c ∈ d.chars, isTokenChar c = true :=
    fun d c hc => isTokenChar_of_isDigit (d.isDigit c hc)
  have hsign : ∀ c ∈ n.sign, isTokenChar c = true := by
    unfold sign
    split
    · exact List.forall_mem_singleton.2 rfl
    · exact List.forall_mem_nil _
  have hpoint : ∀ c ∈ point n.fraction, isTokenChar c = true := by
    cases n.fraction with
    | none => exact List.forall_mem_nil _
    | some d => exact List.forall_mem_cons.2 ⟨rfl, hdigits d⟩
  simp only [text, List.forall_mem_append]
  exact ⟨⟨hsign, hdigits n.whole⟩, hpoint⟩

theorem BoundExpr.isTokenChar_text (b : BoundExpr) : ∀ c ∈ b.text, isTokenChar c = true := by
  cases b with
  | number n => exact n.isTokenChar_text
  | minusInf | plusInf | inf | star => simp [text, isTokenChar]

theorem Blanks.noOpening (b : Blanks) : NoOpening b.chars := by
  intro c hc
  have hblank := b.isBlank c hc
  rw [Bool.eq_false_iff]
  intro hopening
  rw [not_isBlank_of_isOpening hopening] at hblank
  cases hblank

theorem noOpening_of_isDigit {run : List Char} (h : ∀ c ∈ run, c.isDigit = true) :
    NoOpening run :=
  fun c hc => not_isOpening_of_isTokenChar (isTokenChar_of_isDigit (h c hc))

theorem Numeral.noOpening_text (n : Numeral) : NoOpening n.text :=
  fun c hc => not_isOpening_of_isTokenChar (n.isTokenChar_text c hc)

theorem BoundExpr.noOpening_text (b : BoundExpr) : NoOpening b.text :=
  fun c hc => not_isOpening_of_isTokenChar (b.isTokenChar_text c hc)

theorem Item.noOpening_text (item : Item) : NoOpening item.text := by
  simp only [text, noOpening_append, noOpening_cons]
  exact ⟨⟨item.beforeComma.noOpening, by decide, item.afterComma.noOpening⟩,
    item.number.noOpening_text⟩

theorem noOpening_items (items : List Item) : NoOpening (items.flatMap Item.text) := by
  intro c hc
  obtain ⟨item, -, hc⟩ := List.mem_flatMap.1 hc
  exact item.noOpening_text c hc

namespace Expression

/-- What stands between the delimiters. -/
theorem exists_inner (e : Expression) :
    ∃ opening inner closing, e.text = opening :: (inner ++ [closing]) ∧
      isOpening opening = true ∧ NoOpening inner ∧ Text.isBlank closing = false := by
  cases e with
  | set before first more after =>
      refine ⟨'{', before.chars ++ first.text ++ more.flatMap Item.text ++ after.chars, '}',
        by simp [text], rfl, ?_, by decide⟩
      simp only [noOpening_append]
      exact ⟨⟨⟨before.noOpening, first.noOpening_text⟩, noOpening_items more⟩, after.noOpening⟩
  | range opening b1 lower b2 b3 upper b4 closing =>
      refine ⟨opening.char, b1.chars ++ lower.text ++ b2.chars ++
          ',' :: (b3.chars ++ upper.text ++ b4.chars), closing.char, by simp [text],
        by cases opening <;> rfl, ?_, closing.not_isBlank_char⟩
      simp only [noOpening_append, noOpening_cons]
      exact ⟨⟨⟨b1.noOpening, lower.noOpening_text⟩, b2.noOpening⟩, by decide,
        ⟨b3.noOpening, upper.noOpening_text⟩, b4.noOpening⟩

theorem trim_text (e : Expression) : Text.trim e.text = e.text := by
  obtain ⟨opening, inner, closing, htext, hopening, -, hclosing⟩ := e.exists_inner
  rw [htext]
  refine Text.trim_of_trimmed ⟨Text.clear_cons.2 (not_isBlank_of_isOpening hopening), ?_⟩
  rw [List.reverse_cons, List.reverse_append]
  exact Text.clear_cons.2 hclosing

/-- An expression that starts before an opening delimiter ends there at the latest. -/
theorem prefix_of_opening {e : Expression} {s t : List Char} {c : Char} (hs : s ≠ [])
    (hc : isOpening c = true) (h : e.text <+: s ++ c :: t) : e.text <+: s ++ [c] := by
  obtain ⟨opening, inner, closing, htext, -, hinner, -⟩ := e.exists_inner
  obtain ⟨first, s, rfl⟩ := List.exists_cons_of_ne_nil hs
  obtain ⟨rest, hrest⟩ := h
  rw [htext, List.cons_append, List.cons_append, List.append_assoc] at hrest
  obtain ⟨rfl, hinside⟩ := List.cons.inj hrest
  rw [htext]
  -- Either the text before `c` reaches over the inside, or the inside over it.
  rcases List.append_eq_append_iff.1 hinside with ⟨gap, rfl, htail⟩ | ⟨gap, rfl, htail⟩
  · cases gap with
    | nil =>
        obtain ⟨rfl, -⟩ := List.cons.inj htail
        simp
    | cons d gap =>
        obtain ⟨rfl, -⟩ := List.cons.inj htail
        exact ⟨gap ++ [c], by simp⟩
  · cases gap with
    | nil =>
        obtain ⟨rfl, -⟩ := List.cons.inj htail
        simp
    | cons d gap =>
        obtain ⟨rfl, -⟩ := List.cons.inj htail
        have hd := hinner c (by simp)
        rw [hc] at hd
        cases hd

end Expression
end PluralMessage.Interval
