import PluralMessage.Proofs.Interval.DigitRuns

/-!
The search for an interval inside a text, and the expressions that occur in the text.
-/
namespace PluralMessage.Interval
open Decimal (ShortRuns)

theorem isOpening_of_readFront {c : Char} {s rest : List Char} {i : Interval}
    (h : readFront (c :: s) = .ok (i, rest)) : isOpening c = true := by
  unfold readFront at h
  split at h
  · rename_i heq; rw [(List.cons.inj heq).1]; rfl
  · rename_i heq; rw [(List.cons.inj heq).1]; rfl
  · rename_i heq; rw [(List.cons.inj heq).1]; rfl
  · cases h

/-- Every expression starts with one of the opening delimiters. -/
theorem Expression.exists_cons (e : Expression) :
    ∃ c rest, e.text = c :: rest ∧ isOpening c = true := by
  cases e with
  | set before first more after => exact ⟨'{', _, rfl, rfl⟩
  | range opening b1 lower b2 b3 upper b4 closing =>
      exact ⟨opening.char, _, rfl, by cases opening <;> rfl⟩

theorem Expression.text_ne_nil (e : Expression) : e.text ≠ [] := by
  obtain ⟨c, rest, htext, -⟩ := e.exists_cons
  rw [htext]
  exact List.cons_ne_nil c rest

/-- An interval at the very front ends the search. -/
theorem search_of_readFront {s rest : List Char} {i : Interval}
    (h : readFront s = .ok (i, rest)) : search s = .ok (some i) := by
  cases s with
  | nil => cases h
  | cons c s => simp only [search, isOpening_of_readFront h, ↓reduceIte, h]

theorem exists_of_search {s : List Char} {i : Interval} (h : search s = .ok (some i)) :
    ∃ e : Expression, e.text <:+: s ∧ e.Fits ∧ e.value = i := by
  induction s with
  | nil => cases h
  | cons c s ih =>
      -- The expression stands at the front or further inside.
      have hinside : search s = .ok (some i) →
          ∃ e : Expression, e.text <:+: c :: s ∧ e.Fits ∧ e.value = i := by
        intro hs
        obtain ⟨e, he, hfits⟩ := ih hs
        exact ⟨e, he.trans (List.suffix_cons _ _).isInfix, hfits⟩
      simp only [search] at h
      split at h
      · split at h
        · rename_i i' rest hi
          cases h
          obtain ⟨e, he, hfits⟩ := exists_of_readFront hi
          exact ⟨e, by rw [he]; exact (List.prefix_append _ _).isInfix, hfits⟩
        · exact hinside h
        · cases h
      · exact hinside h

theorem search_eq_none {s : List Char} (hs : ShortRuns s)
    (h : ∀ e : Expression, ¬ e.text <:+: s) : search s = .ok none := by
  cases hr : search s with
  | error e => exact absurd hr (search_ne_error hs e)
  | ok found =>
      cases found with
      | none => rfl
      | some i =>
          obtain ⟨e, he, -⟩ := exists_of_search hr
          exact absurd he (h e)

/-- The text is cut into three parts, the second of which is an expression, and no expression
starts in the first. -/
structure Leftmost (s before : List Char) (e : Expression) (rest : List Char) : Prop where
  eq_append : s = before ++ (e.text ++ rest)
  first : ∀ k < before.length, ∀ f : Expression, ¬ f.text <+: s.drop k

namespace Leftmost

variable {s before rest : List Char} {e : Expression}

theorem cons {c : Char} (h : Leftmost s before e rest)
    (hc : ∀ f : Expression, ¬ f.text <+: c :: s) : Leftmost (c :: s) (c :: before) e rest where
  eq_append := by rw [h.eq_append, List.cons_append]
  first := by
    intro k hk f
    cases k with
    | zero => exact hc f
    | succ k => exact h.first k (by simpa using hk) f

theorem tail {c : Char} (h : Leftmost (c :: s) (c :: before) e rest) :
    (∀ f : Expression, ¬ f.text <+: c :: s) ∧ Leftmost s before e rest := by
  refine ⟨h.first 0 (by simp), (List.cons.inj h.eq_append).2, ?_⟩
  intro k hk f
  exact h.first (k + 1) (by simpa using hk) f

theorem isInfix (h : Leftmost s before e rest) : e.text <:+: s :=
  ⟨before, rest, by rw [h.eq_append, List.append_assoc]⟩

theorem fits (h : Leftmost s before e rest) (hs : ShortRuns s) : e.Fits :=
  e.fits_of_isInfix hs h.isInfix

theorem shortRuns_before (h : Leftmost s before e rest) (hs : ShortRuns s) : ShortRuns before :=
  hs.of_isInfix ⟨[], _, h.eq_append.symm⟩

end Leftmost

theorem exists_leftmost {s : List Char} {e : Expression} (h : e.text <:+: s) :
    ∃ before f rest, Leftmost s before f rest := by
  induction s with
  | nil => exact absurd (List.infix_nil.1 h) e.text_ne_nil
  | cons c s ih =>
      by_cases hfront : ∃ f : Expression, f.text <+: c :: s
      · obtain ⟨f, rest, hf⟩ := hfront
        exact ⟨[], f, rest, hf.symm, fun k hk => absurd hk (Nat.not_lt_zero k)⟩
      · have hnone : ∀ f : Expression, ¬ f.text <+: c :: s := fun f hf => hfront ⟨f, hf⟩
        rcases List.infix_cons_iff.1 h with hprefix | hinside
        · exact absurd hprefix (hnone e)
        · obtain ⟨before, f, rest, hf⟩ := ih hinside
          exact ⟨c :: before, f, rest, hf.cons hnone⟩

/-- Only the runs of digits in front of the leftmost expression could keep the search from it. -/
theorem search_of_leftmost {s before rest : List Char} {e : Expression}
    (h : Leftmost s before e rest) (hb : ShortRuns before) (he : e.Fits) :
    search s = .ok (some e.value) := by
  induction before generalizing s with
  | nil =>
      rw [h.eq_append, List.nil_append]
      exact search_of_readFront (readFront_text he rest)
  | cons c before ih =>
      obtain ⟨d, more, htext, hd⟩ := e.exists_cons
      cases s with
      | nil => cases h.eq_append
      | cons c' s =>
          obtain ⟨rfl, hs⟩ := List.cons.inj h.eq_append
          obtain ⟨hnone, hleft⟩ := h.tail
          have hbefore : ShortRuns before := hb.of_isSuffix (List.suffix_cons _ _)
          have htail := ih hleft hbefore
          simp only [search]
          split
          · split
            · rename_i i rest' hi
              obtain ⟨f, hf, -⟩ := exists_of_readFront hi
              exact absurd ⟨rest', hf.symm⟩ (hnone f)
            · exact htail
            · rename_i limit hlimit
              refine absurd hlimit (withinLimit_readFront ?_ limit)
              rw [List.tail_cons, hs, htext, List.cons_append]
              exact hbefore.of_isInfix (beforeOpening_cut_isPrefix before hd _).isInfix
          · exact htail

/-- The search misses no expression: it is found, or another one before it. -/
theorem exists_search {s : List Char} (hs : ShortRuns s) {e : Expression}
    (he : e.text <:+: s) : ∃ i, search s = .ok (some i) := by
  obtain ⟨before, f, rest, hf⟩ := exists_leftmost he
  exact ⟨f.value, search_of_leftmost hf (hf.shortRuns_before hs) (hf.fits hs)⟩

theorem not_infix_of_no_opening {s : List Char} (h : s.any isOpening = false)
    (e : Expression) : ¬ e.text <:+: s := by
  intro he
  obtain ⟨c, rest, htext, hc⟩ := e.exists_cons
  have hmem : c ∈ s := he.subset (by rw [htext]; exact List.mem_cons_self)
  exact List.any_eq_false.1 h c hmem hc

end PluralMessage.Interval
