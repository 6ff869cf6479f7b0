import PluralMessage.Proofs.Interval.Recognition
import PluralMessage.Proofs.Interval.Search

/-!
The search finds the leftmost expression of a text. An attempt at an opening delimiter before it
fails at the delimiter of the expression at the latest, so neither what the expression ends with nor
what follows it changes what is found.
-/
namespace PluralMessage.Interval
open Decimal (ShortRuns)

/-- The text, from its opening delimiter to its closing one, is derived by the grammar. -/
def IsExpression (s : List Char) : Prop :=
  ∃ e : Expression, e.text = s

/-- No expression is a proper beginning of another. -/
theorem Expression.eq_of_isPrefix {e f : Expression} (h : e.text <+: f.text) : e = f := by
  obtain ⟨rest, hrest⟩ := h
  exact (text_unique (s := rest) (t := []) (by rw [hrest, List.append_nil])).1

namespace Leftmost

variable {s before rest : List Char} {e : Expression}

theorem drop_eq (h : Leftmost s before e rest) : s.drop before.length = e.text ++ rest := by
  rw [h.eq_append, List.drop_left]

/-- What follows an expression does not make one that starts before it. -/
theorem append (h : Leftmost s before e rest) (t : List Char) :
    Leftmost (s ++ t) before e (rest ++ t) where
  eq_append := by rw [h.eq_append]; simp only [List.append_assoc]
  first := by
    intro k hk f hf
    obtain ⟨c, more, htext, hc⟩ := e.exists_cons
    have hdrop : s.drop k = before.drop k ++ c :: (more ++ rest) := by
      rw [h.eq_append, List.drop_append_of_le_length (Nat.le_of_lt hk), htext, List.cons_append]
    have hne : before.drop k ≠ [] := by
      simpa using hk
    have hlen : k ≤ s.length := by
      rw [h.eq_append, List.length_append]
      omega
    rw [List.drop_append_of_le_length hlen, hdrop, List.append_assoc, List.cons_append] at hf
    have hcut := Expression.prefix_of_opening hne hc hf
    refine h.first k hk f (hcut.trans ?_)
    rw [hdrop]
    exact ⟨more ++ rest, by simp⟩

/-- The place where the leftmost expression ends is the only one where an expression ends that
starts with it. -/
theorem stop_unique (h : Leftmost s before e rest) {stop : Nat} (hstop : stop ≤ s.length)
    (hexpr : IsExpression (s.extract before.length stop)) :
    stop = before.length + e.text.length := by
  obtain ⟨f, hf⟩ := hexpr
  have hprefix : f.text <+: e.text ++ rest := by
    rw [hf, ← h.drop_eq]
    exact List.take_prefix _ _
  obtain ⟨more, hmore⟩ := hprefix
  obtain ⟨rfl, -⟩ := Expression.text_unique hmore
  obtain ⟨c, tail, htext, -⟩ := f.exists_cons
  have hlen := congrArg List.length hf
  rw [List.length_take, List.length_drop] at hlen
  rw [htext, List.length_cons] at hlen ⊢
  omega

end Leftmost

theorem search_eq_none_iff {s : List Char} (hs : ShortRuns s) :
    search s = .ok none ↔ ∀ e : Expression, ¬ e.text <:+: s := by
  constructor
  · intro h e he
    obtain ⟨i, hi⟩ := exists_search hs he
    rw [h] at hi
    cases hi
  · exact search_eq_none hs

/-- The search finds nothing exactly if no part of the text is an expression. Otherwise there is a
least place where one starts and one place only where it ends, and what is found is what this part
is read as; text behind it makes no difference. No expression is a proper beginning of another. -/
theorem search_finds_leftmost {s : List Char} (hs : ShortRuns s) :
    (search s = .ok none ↔ ∀ t, t <:+: s → ¬ IsExpression t) ∧
    ((∃ t, t <:+: s ∧ IsExpression t) → ∃ start stop, stop ≤ s.length ∧
      IsExpression (s.extract start stop) ∧
      (∀ k < start, ∀ l, ¬ IsExpression (s.extract k l)) ∧
      (∀ l ≤ s.length, IsExpression (s.extract start l) → l = stop) ∧
      ∃ i, read (s.extract start stop) = .ok i ∧ search s = .ok (some i)) ∧
    (∀ t u, IsExpression t → IsExpression u → t <+: u → t = u) ∧
    ∀ i, search s = .ok (some i) → ∀ t, search (s ++ t) = .ok (some i) := by
  refine ⟨?_, ?_, ?_, ?_⟩
  · rw [search_eq_none_iff hs]
    constructor
    · rintro h t ht ⟨e, rfl⟩
      exact h e ht
    · intro h e he
      exact h e.text he ⟨e, rfl⟩
  · rintro ⟨t, ht, e, rfl⟩
    obtain ⟨before, f, rest, hf⟩ := exists_leftmost ht
    have hpart : s.extract before.length (before.length + f.text.length) = f.text := by
      rw [List.extract_eq_take_drop, hf.drop_eq, Nat.add_sub_cancel_left, List.take_left]
    refine ⟨before.length, before.length + f.text.length, ?_, ⟨f, hpart.symm⟩, ?_,
      fun l hl => hf.stop_unique hl, f.value, ?_, ?_⟩
    · have hlen := congrArg List.length hf.eq_append
      simp only [List.length_append] at hlen
      omega
    · rintro k hk l ⟨g, hg⟩
      refine hf.first k hk g ?_
      rw [hg]
      exact List.take_prefix _ _
    · rw [hpart]
      exact read_eq_ok_iff.2 ⟨f, f.trim_text.symm, hf.fits hs, rfl⟩
    · exact search_of_leftmost hf (hf.shortRuns_before hs) (hf.fits hs)
  · rintro t u ⟨e, rfl⟩ ⟨f, rfl⟩ h
    rw [Expression.eq_of_isPrefix h]
  · intro i hi t
    obtain ⟨e, he, -⟩ := exists_of_search hi
    obtain ⟨before, f, rest, hf⟩ := exists_leftmost he
    rw [search_of_leftmost hf (hf.shortRuns_before hs) (hf.fits hs)] at hi
    rw [search_of_leftmost (hf.append t) (hf.shortRuns_before hs) (hf.fits hs), hi]

/-- A remark in which the first bracket opens no interval, although it stands where one could. -/
def remark : List Char :=
  "up to ]1, [2,3] left".toList

theorem search_finds_leftmost_remark :
    (ShortRuns remark ∧ ∃ t, t <:+: remark ∧ IsExpression t) ∧
      (∃ start stop, IsExpression (remark.extract start stop) ∧
        ∀ k < start, ∀ l, ¬ IsExpression (remark.extract k l)) ∧
      search (remark ++ " or {4}".toList) =
        .ok (some (.range .left (some 2) (.finite 3) .right)) := by
  have hshort : ShortRuns remark := Decimal.shortRuns_of_length_le (by decide)
  have hfound : search remark = .ok (some (.range .left (some 2) (.finite 3) .right)) := by
    decide
  obtain ⟨e, he, -⟩ := exists_of_search hfound
  obtain ⟨-, hleast, -, happend⟩ := search_finds_leftmost hshort
  obtain ⟨start, stop, -, hexpr, hfirst, -⟩ := hleast ⟨e.text, he, e, rfl⟩
  exact ⟨⟨hshort, e.text, he, e, rfl⟩, ⟨start, stop, hexpr, hfirst⟩, happend _ hfound _⟩

end PluralMessage.Interval
