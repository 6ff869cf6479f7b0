import PluralMessage.Proofs.Interval.Numeral

/-!
The readers and the grammar. Each reader takes the text of one derivation, with blanks before it,
off the front of what it is given, and accepts nothing else; so `readFront` succeeds exactly on
texts that start with an interval expression whose numerals are not too long.
-/
namespace PluralMessage

theorem Bracket.not_isBlank_char (k : Bracket) : Text.isBlank k.char = false := by
  cases k <;> decide

namespace Interval

def noBlanks : Blanks where
  chars := []
  isBlank := by simp

namespace Blanks

theorem trimLeft_append (b : Blanks) {s : List Char} (h : Text.Clear Text.isBlank s) :
    Text.trimLeft (b.chars ++ s) = s :=
  Text.dropWhile_run b.isBlank h

/-- A word ends where blanks begin. -/
theorem clear_append (b : Blanks) (h : b.chars ≠ []) (s : List Char) :
    Text.Clear (fun c => !Text.isBlank c) (b.chars ++ s) := by
  cases hb : b.chars with
  | nil => exact absurd hb h
  | cons c more =>
      have hc : Text.isBlank c = true := b.isBlank c (by simp [hb])
      exact Text.clear_cons.2 (by simp [hc])

/-- The blanks in front of a text. -/
def leading (s : List Char) : Blanks where
  chars := s.takeWhile Text.isBlank
  isBlank := fun _ => Text.isBlank_of_mem_takeWhile

theorem leading_append_trimLeft (s : List Char) :
    (leading s).chars ++ Text.trimLeft s = s :=
  List.takeWhile_append_dropWhile

theorem delimited_append (b : Blanks) {s : List Char} (h : Numeral.Delimited s) :
    Numeral.Delimited (b.chars ++ s) := by
  cases hb : b.chars with
  | nil => exact h
  | cons c more =>
      have hc : Text.isBlank c = true := b.isBlank c (by simp [hb])
      apply Text.clear_cons.2
      cases hd : c.isDigit with
      | true => rw [not_isBlank_of_isDigit hd] at hc; cases hc
      | false =>
          rw [Bool.false_or, beq_eq_false_iff_ne]
          rintro rfl
          exact absurd hc (by decide)

theorem delimited_comma (b : Blanks) (s : List Char) :
    Numeral.Delimited (b.chars ++ ',' :: s) :=
  b.delimited_append (Text.clear_cons.2 (by decide))

theorem delimited_bracket (b : Blanks) (k : Bracket) (s : List Char) :
    Numeral.Delimited (b.chars ++ k.char :: s) :=
  b.delimited_append (Text.clear_cons.2 (by cases k <;> decide))

theorem unique {a b : Blanks} {s t : List Char} (hs : Text.Clear Text.isBlank s)
    (ht : Text.Clear Text.isBlank t) (h : a.chars ++ s = b.chars ++ t) : a = b ∧ s = t := by
  obtain ⟨hchars, hrest⟩ := Text.run_unique a.isBlank b.isBlank hs ht h
  exact ⟨Blanks.ext hchars, hrest⟩

end Blanks

theorem Numeral.clear_isBlank_text (n : Numeral) (rest : List Char) :
    Text.Clear Text.isBlank (n.text ++ rest) := by
  obtain ⟨c, more, hw, hc⟩ := n.whole.exists_cons
  simp only [Numeral.text, Numeral.sign, hw]
  cases n.negative with
  | true => exact Text.clear_cons.2 (by decide)
  | false => exact Text.clear_cons.2 (not_isBlank_of_isDigit hc)

/-! Single tokens. -/

theorem readNumber_text (b : Blanks) {n : Numeral} {rest : List Char} (hn : n.Fits)
    (hr : Numeral.Delimited rest) :
    readNumber (b.chars ++ (n.text ++ rest)) = .ok (n.value, rest) := by
  rw [readNumber, b.trimLeft_append (n.clear_isBlank_text rest)]
  exact Numeral.readSigned_text hn hr

theorem exists_of_readNumber {s rest : List Char} {v : Int}
    (h : readNumber s = .ok (v, rest)) :
    ∃ (b : Blanks) (n : Numeral), s = b.chars ++ (n.text ++ rest) ∧ n.Fits ∧ n.value = v := by
  obtain ⟨n, hs, hn, hv⟩ := Numeral.exists_of_readSigned h
  exact ⟨Blanks.leading s, n, by rw [← hs, Blanks.leading_append_trimLeft], hn, hv⟩

namespace BoundExpr

theorem clear_isBlank_text (b : BoundExpr) (rest : List Char) :
    Text.Clear Text.isBlank (b.text ++ rest) := by
  cases b with
  | number n => exact n.clear_isBlank_text rest
  | minusInf | plusInf | inf | star => exact Text.clear_cons.2 (by decide)

/-- No numeral starts like one of the infinite bounds. -/
theorem number_text_ne (n : Numeral) {b : BoundExpr} (hb : ∀ m, b ≠ number m) (s t : List Char) :
    n.text ++ s ≠ b.text ++ t := by
  obtain ⟨c, more, hw, hc⟩ := n.whole.exists_cons
  intro h
  cases b with
  | number m => exact hb m rfl
  | minusInf | plusInf | inf | star =>
      -- Behind the sign, or without one in front, stands a digit.
      cases hneg : n.negative <;> simp [Numeral.text, Numeral.sign, hneg, hw, text] at h <;>
        simp [h.1] at hc

theorem readBoundHere_number (n : Numeral) (rest : List Char) :
    readBoundHere (n.text ++ rest) =
      (readSigned (n.text ++ rest)).map fun (n, rest) => (.finite n, rest) := by
  rw [readBoundHere.eq_def]
  split
  · rename_i tail h
    exact absurd h (number_text_ne n (b := minusInf) (by simp) rest tail)
  · rename_i tail h
    exact absurd h (number_text_ne n (b := plusInf) (by simp) rest tail)
  · rename_i tail h
    exact absurd h (number_text_ne n (b := inf) (by simp) rest tail)
  · rename_i tail h
    exact absurd h (number_text_ne n (b := star) (by simp) rest tail)
  · rfl

theorem readBoundHere_text {b : BoundExpr} {rest : List Char} (hb : b.Fits)
    (hr : Numeral.Delimited rest) :
    readBoundHere (b.text ++ rest) = .ok (b.value, rest) := by
  cases b with
  | minusInf | plusInf | inf | star => rfl
  | number n =>
      rw [text, readBoundHere_number, Numeral.readSigned_text hb hr]
      rfl

theorem exists_of_readBoundHere {s rest : List Char} {v : Bound}
    (h : readBoundHere s = .ok (v, rest)) :
    ∃ b : BoundExpr, s = b.text ++ rest ∧ b.Fits ∧ b.value = v := by
  unfold readBoundHere at h
  split at h
  · cases h; exact ⟨minusInf, rfl, trivial, rfl⟩
  · cases h; exact ⟨plusInf, rfl, trivial, rfl⟩
  · cases h; exact ⟨inf, rfl, trivial, rfl⟩
  · cases h; exact ⟨star, rfl, trivial, rfl⟩
  · obtain ⟨⟨m, r⟩, hm, hv⟩ := Except.map_eq_ok.1 h
    obtain ⟨rfl, rfl⟩ := Prod.mk.inj hv
    obtain ⟨n, hs, hn, rfl⟩ := Numeral.exists_of_readSigned hm
    exact ⟨number n, hs, hn, rfl⟩

end BoundExpr

theorem readBound_text (b : Blanks) {e : BoundExpr} {rest : List Char} (he : e.Fits)
    (hr : Numeral.Delimited rest) :
    readBound (b.chars ++ (e.text ++ rest)) = .ok (e.value, rest) := by
  rw [readBound, b.trimLeft_append (e.clear_isBlank_text rest)]
  exact BoundExpr.readBoundHere_text he hr

theorem exists_of_readBound {s rest : List Char} {v : Bound}
    (h : readBound s = .ok (v, rest)) :
    ∃ (b : Blanks) (e : BoundExpr), s = b.chars ++ (e.text ++ rest) ∧ e.Fits ∧ e.value = v := by
  obtain ⟨e, hs, he, hv⟩ := BoundExpr.exists_of_readBoundHere h
  exact ⟨Blanks.leading s, e, by rw [← hs, Blanks.leading_append_trimLeft], he, hv⟩

theorem readSign_text (b : Blanks) {c : Char} (hc : Text.isBlank c = false) (what : Wanted)
    (rest : List Char) : readSign c what (b.chars ++ c :: rest) = .ok rest := by
  rw [readSign, b.trimLeft_append (Text.clear_cons.2 hc)]
  exact if_pos rfl

theorem exists_of_readSign {c : Char} {what : Wanted} {s rest : List Char}
    (h : readSign c what s = .ok rest) : ∃ b : Blanks, s = b.chars ++ c :: rest := by
  unfold readSign at h
  split at h
  · rename_i d tail ht
    split at h
    · rename_i hd
      cases h
      exact ⟨Blanks.leading s, by rw [← hd, ← ht, Blanks.leading_append_trimLeft]⟩
    · cases h
  · cases h

theorem readBracket_text (b : Blanks) (k : Bracket) (rest : List Char) :
    readBracket (b.chars ++ k.char :: rest) = .ok (k, rest) := by
  rw [readBracket, b.trimLeft_append (Text.clear_cons.2 k.not_isBlank_char)]
  cases k <;> rfl

theorem exists_of_readBracket {s rest : List Char} {k : Bracket}
    (h : readBracket s = .ok (k, rest)) : ∃ b : Blanks, s = b.chars ++ k.char :: rest := by
  refine ⟨Blanks.leading s, ?_⟩
  unfold readBracket at h
  split at h
  · rename_i tail ht
    cases h
    exact (ht ▸ Blanks.leading_append_trimLeft s).symm
  · rename_i tail ht
    cases h
    exact (ht ▸ Blanks.leading_append_trimLeft s).symm
  · cases h

/-! The further numbers of a set, one item at a time. -/

theorem readMore_of_comma {s tail rest : List Char} {v : Int} (hs : Text.trimLeft s = ',' :: tail)
    (hv : readNumber tail = .ok (v, rest)) :
    readMore s = (readMore rest).map fun (vs, rest) => (v :: vs, rest) := by
  rw [readMore.eq_def]
  split
  · rename_i tail' ht
    obtain ⟨-, rfl⟩ := List.cons.inj (hs.symm.trans ht)
    split
    · rename_i v' rest' hv'
      obtain ⟨rfl, rfl⟩ := Prod.mk.inj (Except.ok.inj (hv.symm.trans hv'))
      rfl
    · rename_i e he
      cases hv.symm.trans he
  · rename_i hne
    exact absurd hs (hne tail)

theorem readMore_of_not_comma {s : List Char} (hs : ∀ tail, Text.trimLeft s ≠ ',' :: tail) :
    readMore s = .ok ([], Text.trimLeft s) := by
  rw [readMore.eq_def]
  split
  · rename_i tail ht
    exact absurd ht (hs tail)
  · rfl

theorem delimited_items (items : List Item) (after : Blanks) (rest : List Char) :
    Numeral.Delimited (items.flatMap Item.text ++ (after.chars ++ '}' :: rest)) := by
  cases items with
  | nil => exact after.delimited_append (Text.clear_cons.2 (by decide))
  | cons item items =>
      simp only [List.flatMap_cons, Item.text, List.append_assoc, List.cons_append]
      exact item.beforeComma.delimited_comma _

theorem readMore_items {items : List Item} (hi : ∀ item ∈ items, item.number.Fits)
    (after : Blanks) (rest : List Char) :
    readMore (items.flatMap Item.text ++ (after.chars ++ '}' :: rest)) =
      .ok (items.map fun item => item.number.value, '}' :: rest) := by
  induction items with
  | nil =>
      have ht := after.trimLeft_append (s := '}' :: rest) (Text.clear_cons.2 (by decide))
      rw [List.flatMap_nil, List.nil_append, readMore_of_not_comma (by simp [ht]), ht]
      rfl
  | cons item items ih =>
      have hn := readNumber_text item.afterComma (hi item (by simp))
        (delimited_items items after rest)
      simp only [List.flatMap_cons, Item.text, List.append_assoc, List.cons_append]
      rw [readMore_of_comma (item.beforeComma.trimLeft_append (Text.clear_cons.2 (by decide))) hn,
        ih (fun item h => hi item (by simp [h]))]
      rfl

theorem exists_of_readMore {s rest : List Char} {vs : List Int}
    (h : readMore s = .ok (vs, rest)) :
    ∃ (items : List Item) (after : Blanks), s = items.flatMap Item.text ++ (after.chars ++ rest) ∧
      (∀ item ∈ items, item.number.Fits) ∧ items.map (fun item => item.number.value) = vs := by
  fun_induction readMore s generalizing vs with
  | case1 s tail ht v next hv ih =>
      obtain ⟨⟨vs', rest'⟩, hm, heq⟩ := Except.map_eq_ok.1 h
      obtain ⟨rfl, rfl⟩ := Prod.mk.inj heq
      obtain ⟨items, after, rfl, hfits, rfl⟩ := ih hm
      obtain ⟨b, n, rfl, hn, rfl⟩ := exists_of_readNumber hv
      refine ⟨⟨Blanks.leading s, b, n⟩ :: items, after, ?_, ?_, rfl⟩
      · have hs := Blanks.leading_append_trimLeft s
        rw [ht] at hs
        simpa [Item.text] using hs.symm
      · intro item hitem
        rcases List.mem_cons.1 hitem with rfl | hitem
        · exact hn
        · exact hfits item hitem
  | case2 s tail ht e he => cases h
  | case3 s hne =>
      obtain ⟨rfl, rfl⟩ := Prod.mk.inj (Except.ok.inj h)
      exact ⟨[], Blanks.leading s, (Blanks.leading_append_trimLeft s).symm, by simp, rfl⟩

/-! Whole expressions, at the front of a text. -/

theorem readSet_text {before : Blanks} {first : Numeral} {more : List Item} {after : Blanks}
    (hf : (Expression.set before first more after).Fits) (rest : List Char) :
    readFront ((Expression.set before first more after).text ++ rest) =
      .ok ((Expression.set before first more after).value, rest) := by
  have hfirst := readNumber_text before hf.1 (delimited_items more after rest)
  have hclose : readSign '}' .closingBrace ('}' :: rest) = .ok rest :=
    readSign_text noBlanks (by decide) .closingBrace rest
  simp only [Expression.text, List.append_assoc, List.cons_append, List.nil_append, readFront,
    readSet, hfirst, readMore_items hf.2, hclose, bind, Except.bind, pure, Except.pure,
    Expression.value]

theorem readRange_text (opening closing : Bracket) {lower upper : BoundExpr}
    (beforeLower beforeComma beforeUpper after : Blanks)
    (hl : lower.Fits) (hu : upper.Fits) (rest : List Char) :
    readRange opening (beforeLower.chars ++ (lower.text ++ (beforeComma.chars ++
        ',' :: (beforeUpper.chars ++ (upper.text ++ (after.chars ++ closing.char :: rest)))))) =
      .ok (.range opening lower.value.finite? upper.value closing, rest) := by
  have hlower := readBound_text beforeLower hl (beforeComma.delimited_comma
    (beforeUpper.chars ++ (upper.text ++ (after.chars ++ closing.char :: rest))))
  have hcomma := readSign_text beforeComma (c := ',') (by decide) .comma
    (beforeUpper.chars ++ (upper.text ++ (after.chars ++ closing.char :: rest)))
  have hupper := readBound_text beforeUpper hu (after.delimited_bracket closing rest)
  simp only [readRange, hlower, hcomma, hupper, readBracket_text, bind, Except.bind, pure,
    Except.pure]

theorem readFront_text {e : Expression} (he : e.Fits) (rest : List Char) :
    readFront (e.text ++ rest) = .ok (e.value, rest) := by
  cases e with
  | set before first more after => exact readSet_text he rest
  | range opening b1 lower b2 b3 upper b4 closing =>
      have h := readRange_text opening closing b1 b2 b3 b4 he.1 he.2 rest
      simp only [Expression.text, List.append_assoc, List.cons_append, List.nil_append]
      cases opening <;> exact h

theorem exists_of_readSet {s rest : List Char} {i : Interval}
    (h : readSet s = .ok (i, rest)) :
    ∃ e : Expression, '{' :: s = e.text ++ rest ∧ e.Fits ∧ e.value = i := by
  obtain ⟨⟨v, s1⟩, hv, h⟩ := Except.bind_eq_ok.1 h
  obtain ⟨⟨vs, s2⟩, hvs, h⟩ := Except.bind_eq_ok.1 h
  obtain ⟨s3, hclose, h⟩ := Except.bind_eq_ok.1 h
  obtain ⟨rfl, rfl⟩ := Prod.mk.inj (Except.ok.inj h)
  obtain ⟨before, first, rfl, hfirst, rfl⟩ := exists_of_readNumber hv
  obtain ⟨more, b, rfl, hmore, rfl⟩ := exists_of_readMore hvs
  obtain ⟨b', rfl⟩ := exists_of_readSign hclose
  -- The blanks that both readers passed over are one run.
  refine ⟨.set before first more ⟨b.chars ++ b'.chars, ?_⟩, ?_, ⟨hfirst, hmore⟩, rfl⟩
  · intro c hc
    exact (List.mem_append.1 hc).elim (b.isBlank c) (b'.isBlank c)
  · simp [Expression.text]

theorem exists_of_readRange {opening : Bracket} {s rest : List Char} {i : Interval}
    (h : readRange opening s = .ok (i, rest)) :
    ∃ e : Expression, opening.char :: s = e.text ++ rest ∧ e.Fits ∧ e.value = i := by
  obtain ⟨⟨lower, s1⟩, hl, h⟩ := Except.bind_eq_ok.1 h
  obtain ⟨s2, hcomma, h⟩ := Except.bind_eq_ok.1 h
  obtain ⟨⟨upper, s3⟩, hu, h⟩ := Except.bind_eq_ok.1 h
  obtain ⟨⟨closing, s4⟩, hc, h⟩ := Except.bind_eq_ok.1 h
  obtain ⟨rfl, rfl⟩ := Prod.mk.inj (Except.ok.inj h)
  obtain ⟨b1, lower, rfl, hlower, rfl⟩ := exists_of_readBound hl
  obtain ⟨b2, rfl⟩ := exists_of_readSign hcomma
  obtain ⟨b3, upper, rfl, hupper, rfl⟩ := exists_of_readBound hu
  obtain ⟨b4, rfl⟩ := exists_of_readBracket hc
  exact ⟨.range opening b1 lower b2 b3 upper b4 closing, by simp [Expression.text],
    ⟨hlower, hupper⟩, rfl⟩

theorem exists_of_readFront {s rest : List Char} {i : Interval}
    (h : readFront s = .ok (i, rest)) :
    ∃ e : Expression, s = e.text ++ rest ∧ e.Fits ∧ e.value = i := by
  unfold readFront at h
  split at h
  · exact exists_of_readSet h
  · exact exists_of_readRange h
  · exact exists_of_readRange h
  · cases h

theorem readFront_eq_ok_iff {s rest : List Char} {i : Interval} :
    readFront s = .ok (i, rest) ↔
      ∃ e : Expression, s = e.text ++ rest ∧ e.Fits ∧ e.value = i := by
  constructor
  · exact exists_of_readFront
  · rintro ⟨e, rfl, he, rfl⟩
    exact readFront_text he rest

end Interval
end PluralMessage
