import PluralMessage.Proofs.Interval.Reader

/-!
The grammar is unambiguous, in a strong form: two expressions with which one text starts are equal.
So no expression is a proper beginning of another.
-/
namespace PluralMessage

theorem Bracket.char_inj {a b : Bracket} (h : a.char = b.char) : a = b := by
  cases a <;> cases b <;> first | rfl | exact absurd h (by decide)

theorem Bracket.char_ne_brace (k : Bracket) : k.char ≠ '{' := by
  cases k <;> decide

namespace Interval
theorem BoundExpr.text_unique {a b : BoundExpr} {s t : List Char} (hs : Numeral.Delimited s)
    (ht : Numeral.Delimited t) (h : a.text ++ s = b.text ++ t) : a = b ∧ s = t := by
  cases a with
  | number n =>
      cases b with
      | number m =>
          obtain ⟨rfl, hrest⟩ := Numeral.text_unique hs ht h
          exact ⟨rfl, hrest⟩
      | minusInf | plusInf | inf | star => exact absurd h (number_text_ne n (by simp) s t)
  | minusInf | plusInf | inf | star =>
      cases b with
      | number m => exact absurd h.symm (number_text_ne m (by simp) t s)
      | minusInf | plusInf | inf | star => simp_all [text]

/-! Single tokens, each with the blanks before it. -/

section
variable {a b : Blanks} {s t : List Char}

theorem number_unique {n m : Numeral} (hs : Numeral.Delimited s) (ht : Numeral.Delimited t)
    (h : a.chars ++ (n.text ++ s) = b.chars ++ (m.text ++ t)) : a = b ∧ n = m ∧ s = t := by
  obtain ⟨hblanks, h⟩ := Blanks.unique (n.clear_isBlank_text s) (m.clear_isBlank_text t) h
  exact ⟨hblanks, Numeral.text_unique hs ht h⟩

theorem bound_unique {x y : BoundExpr} (hs : Numeral.Delimited s) (ht : Numeral.Delimited t)
    (h : a.chars ++ (x.text ++ s) = b.chars ++ (y.text ++ t)) : a = b ∧ x = y ∧ s = t := by
  obtain ⟨hblanks, h⟩ := Blanks.unique (x.clear_isBlank_text s) (y.clear_isBlank_text t) h
  exact ⟨hblanks, BoundExpr.text_unique hs ht h⟩

theorem mark_unique {c d : Char} (hc : Text.isBlank c = false) (hd : Text.isBlank d = false)
    (h : a.chars ++ c :: s = b.chars ++ d :: t) : a = b ∧ c = d ∧ s = t := by
  obtain ⟨hblanks, h⟩ := Blanks.unique (Text.clear_cons.2 hc) (Text.clear_cons.2 hd) h
  exact ⟨hblanks, List.cons.inj h⟩

end

theorem items_unique {xs ys : List Item} {a b : Blanks} {s t : List Char}
    (h : xs.flatMap Item.text ++ (a.chars ++ '}' :: s) =
      ys.flatMap Item.text ++ (b.chars ++ '}' :: t)) : xs = ys ∧ a = b ∧ s = t := by
  induction xs generalizing ys with
  | nil =>
      cases ys with
      | nil =>
          obtain ⟨hblanks, -, hrest⟩ := mark_unique (by decide) (by decide) h
          exact ⟨rfl, hblanks, hrest⟩
      | cons y ys =>
          simp only [List.flatMap_nil, List.nil_append, List.flatMap_cons, Item.text,
            List.append_assoc, List.cons_append] at h
          obtain ⟨-, hmark, -⟩ := mark_unique (by decide) (by decide) h
          exact absurd hmark (by decide)
  | cons x xs ih =>
      cases ys with
      | nil =>
          simp only [List.flatMap_nil, List.nil_append, List.flatMap_cons, Item.text,
            List.append_assoc, List.cons_append] at h
          obtain ⟨-, hmark, -⟩ := mark_unique (by decide) (by decide) h
          exact absurd hmark (by decide)
      | cons y ys =>
          simp only [List.flatMap_cons, Item.text, List.append_assoc, List.cons_append] at h
          obtain ⟨hbefore, -, h⟩ := mark_unique (by decide) (by decide) h
          obtain ⟨hafter, hnumber, h⟩ := number_unique (delimited_items xs a s)
            (delimited_items ys b t) h
          obtain ⟨rfl, hblanks, hrest⟩ := ih h
          exact ⟨by rw [Item.ext hbefore hafter hnumber], hblanks, hrest⟩

namespace Expression

theorem text_unique {e f : Expression} {s t : List Char} (h : e.text ++ s = f.text ++ t) :
    e = f ∧ s = t := by
  cases e with
  | set a1 n more a2 =>
      cases f with
      | set b1 m more' b2 =>
          simp only [text, List.append_assoc, List.cons_append, List.nil_append,
            List.cons.injEq, true_and] at h
          obtain ⟨hbefore, hfirst, h⟩ := number_unique (delimited_items more a2 s)
            (delimited_items more' b2 t) h
          obtain ⟨hmore, hafter, hrest⟩ := items_unique h
          exact ⟨by rw [hbefore, hfirst, hmore, hafter], hrest⟩
      | range k _ _ _ _ _ _ _ =>
          simp only [text, List.cons_append, List.append_assoc, List.cons.injEq] at h
          exact absurd h.1.symm k.char_ne_brace
  | range opening a1 lower a2 a3 upper a4 closing =>
      cases f with
      | set _ _ _ _ =>
          simp only [text, List.cons_append, List.append_assoc, List.cons.injEq] at h
          exact absurd h.1 opening.char_ne_brace
      | range opening' b1 lower' b2 b3 upper' b4 closing' =>
          simp only [text, List.append_assoc, List.cons_append, List.nil_append,
            List.cons.injEq] at h
          obtain ⟨hopening, h⟩ := h
          obtain ⟨h1, hlower, h⟩ := bound_unique (a2.delimited_comma _) (b2.delimited_comma _) h
          obtain ⟨h2, -, h⟩ := mark_unique (by decide) (by decide) h
          obtain ⟨h3, hupper, h⟩ := bound_unique (a4.delimited_bracket closing s)
            (b4.delimited_bracket closing' t) h
          obtain ⟨h4, hclosing, hrest⟩ := mark_unique closing.not_isBlank_char
            closing'.not_isBlank_char h
          rw [Bracket.char_inj hopening, h1, hlower, h2, h3, hupper, h4,
            Bracket.char_inj hclosing]
          exact ⟨rfl, hrest⟩

theorem text_injective {e f : Expression} (h : e.text = f.text) : e = f :=
  (text_unique (s := []) (t := []) (by rw [h])).1

end Expression
end Interval
end PluralMessage
