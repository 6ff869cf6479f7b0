import PluralMessage.Proofs.Interval.Delimiters

/-!
Changing the blanks of a text. The grammar asks for no blank anywhere and allows any number wherever
it allows one, so an expression in which a blank gives way to other blanks, or to none, is an
expression again. Step by step the same holds for whole runs of blanks, and for texts that an
expression is a part of.
-/
namespace PluralMessage.Interval

/-- One blank of a text gives way to a run of blanks, which may be empty. -/
inductive Respaced : List Char → List Char → Prop
  | here {c : Char} (hc : Text.isBlank c = true) (gap : Blanks) (s : List Char) :
      Respaced (c :: s) (gap.chars ++ s)
  | there (c : Char) {s t : List Char} (h : Respaced s t) : Respaced (c :: s) (c :: t)

namespace Respaced

variable {s t u : List Char}

theorem append_left (h : Respaced s t) (u : List Char) : Respaced (u ++ s) (u ++ t) := by
  induction u with
  | nil => exact h
  | cons c u ih => exact .there c ih

/-- A step in a text of two parts is a step in one of them. -/
theorem of_append (h : Respaced (s ++ t) u) :
    (∃ s', Respaced s s' ∧ u = s' ++ t) ∨ ∃ t', Respaced t t' ∧ u = s ++ t' := by
  induction s generalizing u with
  | nil => exact .inr ⟨u, h, rfl⟩
  | cons c s ih =>
      cases h with
      | here hc gap _ => exact .inl ⟨gap.chars ++ s, .here hc gap s, by simp⟩
      | there _ h =>
          rcases ih h with ⟨s', hs, rfl⟩ | ⟨t', ht, rfl⟩
          · exact .inl ⟨c :: s', .there c hs, rfl⟩
          · exact .inr ⟨t', ht, rfl⟩

theorem exists_blank (h : Respaced s t) : ∃ c ∈ s, Text.isBlank c = true := by
  induction h with
  | here hc gap s => exact ⟨_, List.mem_cons_self, hc⟩
  | there c h ih =>
      obtain ⟨d, hd, hblank⟩ := ih
      exact ⟨d, List.mem_cons_of_mem c hd, hblank⟩

end Respaced

theorem not_respaced {s t : List Char} (hs : ∀ c ∈ s, Text.isBlank c = false) :
    ¬ Respaced s t := by
  intro h
  obtain ⟨c, hc, hblank⟩ := h.exists_blank
  rw [hs c hc] at hblank
  cases hblank

theorem Blanks.exists_of_respaced (b : Blanks) {u : List Char} (h : Respaced b.chars u) :
    ∃ b' : Blanks, b'.chars = u := by
  suffices hblank : ∀ c ∈ u, Text.isBlank c = true from ⟨⟨u, hblank⟩, rfl⟩
  have hb := b.isBlank
  generalize b.chars = s at h hb
  induction h with
  | here hc gap s =>
      exact List.forall_mem_append.2 ⟨gap.isBlank, (List.forall_mem_cons.1 hb).2⟩
  | there c h ih =>
      obtain ⟨hc, hs⟩ := List.forall_mem_cons.1 hb
      exact List.forall_mem_cons.2 ⟨hc, ih hs⟩

namespace Respaced

variable {s t u : List Char}

/-- A step goes past a token. -/
theorem of_token (hs : ∀ c ∈ s, Text.isBlank c = false) (h : Respaced (s ++ t) u) :
    ∃ t', Respaced t t' ∧ u = s ++ t' := by
  rcases h.of_append with ⟨s', hs', -⟩ | htail
  · exact absurd hs' (not_respaced hs)
  · exact htail

theorem of_mark {c : Char} (hc : Text.isBlank c = false) (h : Respaced (c :: s) u) :
    ∃ t, Respaced s t ∧ u = c :: t :=
  of_token (List.forall_mem_singleton.2 hc) h

theorem of_blanks {b : Blanks} (h : Respaced (b.chars ++ t) u) :
    (∃ b' : Blanks, u = b'.chars ++ t) ∨ ∃ t', Respaced t t' ∧ u = b.chars ++ t' := by
  rcases h.of_append with ⟨s, hb, rfl⟩ | htail
  · obtain ⟨b', rfl⟩ := b.exists_of_respaced hb
    exact .inl ⟨b', rfl⟩
  · exact .inr htail

end Respaced

/-! The tokens of an expression have no blanks, and what stands between them is free. -/

theorem Numeral.not_isBlank_text (n : Numeral) : ∀ c ∈ n.text, Text.isBlank c = false :=
  fun c hc => not_isBlank_of_isTokenChar (n.isTokenChar_text c hc)

theorem BoundExpr.not_isBlank_text (b : BoundExpr) : ∀ c ∈ b.text, Text.isBlank c = false :=
  fun c hc => not_isBlank_of_isTokenChar (b.isTokenChar_text c hc)

theorem Item.exists_of_respaced (item : Item) {u : List Char} (h : Respaced item.text u) :
    ∃ item' : Item, item'.text = u := by
  obtain ⟨before, after, n⟩ := item
  simp only [text, List.append_assoc, List.cons_append] at h
  rcases h.of_blanks with ⟨b, rfl⟩ | ⟨s, hcomma, rfl⟩
  · exact ⟨⟨b, after, n⟩, by simp [text]⟩
  obtain ⟨s, hafter, rfl⟩ := hcomma.of_mark (by decide)
  rcases hafter.of_blanks with ⟨b, rfl⟩ | ⟨s, hnumber, rfl⟩
  · exact ⟨⟨before, b, n⟩, by simp [text]⟩
  · exact absurd hnumber (not_respaced n.not_isBlank_text)

theorem exists_items_of_respaced {items : List Item} {u : List Char}
    (h : Respaced (items.flatMap Item.text) u) :
    ∃ items' : List Item, items'.flatMap Item.text = u := by
  induction items generalizing u with
  | nil => exact absurd h (not_respaced (List.forall_mem_nil _))
  | cons item items ih =>
      rw [List.flatMap_cons] at h
      rcases h.of_append with ⟨s, hitem, rfl⟩ | ⟨s, hitems, rfl⟩
      · obtain ⟨item', rfl⟩ := item.exists_of_respaced hitem
        exact ⟨item' :: items, List.flatMap_cons⟩
      · obtain ⟨items', rfl⟩ := ih hitems
        exact ⟨item :: items', List.flatMap_cons⟩

namespace Expression

theorem exists_of_respaced_set {before after : Blanks} {first : Numeral} {more : List Item}
    {u : List Char} (h : Respaced (set before first more after).text u) :
    ∃ e : Expression, e.text = u := by
  simp only [text, List.append_assoc, List.cons_append] at h
  obtain ⟨s, hbefore, rfl⟩ := h.of_mark (by decide)
  rcases hbefore.of_blanks with ⟨b, rfl⟩ | ⟨s, hfirst, rfl⟩
  · exact ⟨set b first more after, by simp [text]⟩
  obtain ⟨s, hmore, rfl⟩ := hfirst.of_token first.not_isBlank_text
  rcases hmore.of_append with ⟨s, hitems, rfl⟩ | ⟨s, hafter, rfl⟩
  · obtain ⟨items, rfl⟩ := exists_items_of_respaced hitems
    exact ⟨set before first items after, by simp [text]⟩
  rcases hafter.of_blanks with ⟨b, rfl⟩ | ⟨s, hclosing, rfl⟩
  · exact ⟨set before first more b, by simp [text]⟩
  · exact absurd hclosing (not_respaced (List.forall_mem_singleton.2 rfl))

theorem exists_of_respaced_range {opening closing : Bracket} {b1 b2 b3 b4 : Blanks}
    {lower upper : BoundExpr} {u : List Char}
    (h : Respaced (range opening b1 lower b2 b3 upper b4 closing).text u) :
    ∃ e : Expression, e.text = u := by
  simp only [text, List.append_assoc, List.cons_append] at h
  obtain ⟨s, h1, rfl⟩ := h.of_mark opening.not_isBlank_char
  rcases h1.of_blanks with ⟨b, rfl⟩ | ⟨s, hlower, rfl⟩
  · exact ⟨range opening b lower b2 b3 upper b4 closing, by simp [text]⟩
  obtain ⟨s, h2, rfl⟩ := hlower.of_token lower.not_isBlank_text
  rcases h2.of_blanks with ⟨b, rfl⟩ | ⟨s, hcomma, rfl⟩
  · exact ⟨range opening b1 lower b b3 upper b4 closing, by simp [text]⟩
  obtain ⟨s, h3, rfl⟩ := hcomma.of_mark (by decide)
  rcases h3.of_blanks with ⟨b, rfl⟩ | ⟨s, hupper, rfl⟩
  · exact ⟨range opening b1 lower b2 b upper b4 closing, by simp [text]⟩
  obtain ⟨s, h4, rfl⟩ := hupper.of_token upper.not_isBlank_text
  rcases h4.of_blanks with ⟨b, rfl⟩ | ⟨s, hclosing, rfl⟩
  · exact ⟨range opening b1 lower b2 b3 upper b closing, by simp [text]⟩
  · exact absurd hclosing (not_respaced (List.forall_mem_singleton.2 closing.not_isBlank_char))

theorem exists_of_respaced (e : Expression) {u : List Char} (h : Respaced e.text u) :
    ∃ f : Expression, f.text = u := by
  cases e with
  | set before first more after => exact exists_of_respaced_set h
  | range opening b1 lower b2 b3 upper b4 closing => exact exists_of_respaced_range h

/-- A step in a text leaves an expression in it, if there was one. -/
theorem exists_infix_of_respaced {e : Expression} {s t : List Char} (he : e.text <:+: s)
    (h : Respaced s t) : ∃ f : Expression, f.text <:+: t := by
  obtain ⟨before, after, rfl⟩ := he
  rcases h.of_append with ⟨u, hfront, rfl⟩ | ⟨after', -, rfl⟩
  · rcases hfront.of_append with ⟨before', -, rfl⟩ | ⟨u, hinside, rfl⟩
    · exact ⟨e, before', after, rfl⟩
    · obtain ⟨f, rfl⟩ := e.exists_of_respaced hinside
      exact ⟨f, before, after, rfl⟩
  · exact ⟨e, before, after', rfl⟩

/-- The same for a whole run of blanks: all but the last are left out one by one, and the last one
gives way to the other run. -/
theorem exists_infix_of_gap {gap : List Char} (hgap : ∀ c ∈ gap, Text.isBlank c = true)
    (hne : gap ≠ []) (other : Blanks) {e : Expression} {s t : List Char}
    (he : e.text <:+: s ++ (gap ++ t)) : ∃ f : Expression, f.text <:+: s ++ (other.chars ++ t) := by
  induction gap generalizing e with
  | nil => exact absurd rfl hne
  | cons c gap ih =>
      obtain ⟨hc, hgap⟩ := List.forall_mem_cons.1 hgap
      by_cases hlast : gap = []
      · subst hlast
        exact exists_infix_of_respaced he ((Respaced.here hc other t).append_left s)
      · have hstep : Respaced (s ++ (c :: gap ++ t)) (s ++ (gap ++ t)) :=
          (Respaced.here hc noBlanks (gap ++ t)).append_left s
        obtain ⟨f, hf⟩ := exists_infix_of_respaced he hstep
        exact ih hgap hlast hf

end Expression
end PluralMessage.Interval
