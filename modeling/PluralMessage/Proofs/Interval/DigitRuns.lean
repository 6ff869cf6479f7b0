import PluralMessage.Proofs.Interval.Delimiters

/-!
The limit on digits is met only by a long run of digits: a reader or a search that ends with it has
come to a run that is longer than a number may be. A reader at an opening delimiter looks for that
run no further than the next one.
-/
namespace PluralMessage

namespace Decimal

/-- No run of digits in the text is longer than a number may be. -/
def ShortRuns (s : List Char) : Prop :=
  ∀ run, run <:+: s → (∀ c ∈ run, c.isDigit = true) → run.length ≤ maxDigits

/-- A run of digits in the text is longer than a number may be, and as long as the report says. -/
def LongRun (s : List Char) (e : TooLong) : Prop :=
  ∃ run, run <:+: s ∧ (∀ c ∈ run, c.isDigit = true) ∧ run.length = e.digits ∧
    maxDigits < e.digits

theorem ShortRuns.of_isInfix {s t : List Char} (h : ShortRuns s) (ht : t <:+: s) : ShortRuns t :=
  fun run hrun => h run (hrun.trans ht)

theorem ShortRuns.of_isSuffix {s t : List Char} (h : ShortRuns s) (ht : t <:+ s) : ShortRuns t :=
  h.of_isInfix ht.isInfix

theorem shortRuns_of_length_le {s : List Char} (h : s.length ≤ maxDigits) : ShortRuns s :=
  fun _ hrun _ => Nat.le_trans hrun.length_le h

theorem not_isDigit_of_isBlank {c : Char} (h : Text.isBlank c = true) : c.isDigit = false := by
  rw [Bool.eq_false_iff]
  intro hdigit
  rw [Interval.not_isBlank_of_isDigit hdigit] at h
  cases h

/-- A run of digits does not go past another character. -/
theorem ShortRuns.append_cons {s t : List Char} {c : Char} (hs : ShortRuns s) (ht : ShortRuns t)
    (hc : c.isDigit = false) : ShortRuns (s ++ c :: t) := by
  intro run hrun hdigit
  have hnil : ∀ front, front <+: c :: t → (∀ d ∈ front, d.isDigit = true) → front = [] := by
    rintro front ⟨rest, hrest⟩ hfront
    apply Text.eq_nil_of_clear_append (p := Char.isDigit) (s := rest) _ hfront
    rw [hrest]
    exact Text.clear_cons.2 hc
  rcases List.infix_append_iff.1 hrun with hrun | hrun | ⟨front, back, rfl, hfront, hback⟩
  · exact hs run hrun hdigit
  · rcases List.infix_cons_iff.1 hrun with hprefix | hrun
    · simp [hnil run hprefix hdigit]
    · exact ht run hrun hdigit
  · obtain rfl := hnil back hback (List.forall_mem_append.1 hdigit).2
    rw [List.append_nil] at hdigit ⊢
    exact hs front hfront.isInfix hdigit

theorem ShortRuns.append_gap {s t : List Char} (hs : ShortRuns s) (ht : ShortRuns t)
    {gap : Interval.Blanks} (hgap : gap.chars ≠ []) : ShortRuns (s ++ (gap.chars ++ t)) := by
  obtain ⟨chars, hblank⟩ := gap
  induction chars generalizing s with
  | nil => exact absurd rfl hgap
  | cons c chars ih =>
      obtain ⟨hc, hchars⟩ := List.forall_mem_cons.1 hblank
      by_cases hlast : chars = []
      · subst hlast
        exact hs.append_cons ht (not_isDigit_of_isBlank hc)
      · have hrest : ShortRuns ([] ++ (chars ++ t)) :=
          ih (shortRuns_of_length_le (Nat.zero_le _)) hchars hlast
        exact hs.append_cons hrest (not_isDigit_of_isBlank hc)

theorem LongRun.of_isInfix {s t : List Char} {e : TooLong} (h : LongRun s e) (hs : s <:+: t) :
    LongRun t e := by
  obtain ⟨run, hrun, hlong⟩ := h
  exact ⟨run, hrun.trans hs, hlong⟩

theorem ShortRuns.not_longRun {s : List Char} (h : ShortRuns s) (e : TooLong) : ¬ LongRun s e := by
  rintro ⟨run, hrun, hdigit, hlen, hlong⟩
  have := h run hrun hdigit
  omega

end Decimal

namespace Interval
open Decimal (ShortRuns LongRun)

/-- The reader did not stop at the limit on digits. -/
def WithinLimit {α : Type} (x : Except Stop α) : Prop :=
  ∀ e, x ≠ .error (.tooLong e)

/-- What stands before the first opening delimiter. -/
def beforeOpening (s : List Char) : List Char :=
  s.takeWhile fun c => !isOpening c

/-- If the reader stops at the limit on digits, then at a run before the first opening
delimiter. -/
def LimitedBy {α : Type} (s : List Char) (x : Except Stop α) : Prop :=
  ∀ e, x = .error (.tooLong e) → LongRun (beforeOpening s) e

/-- What is left of a text from whose front characters were taken that can open no interval. -/
def Leaves (s rest : List Char) : Prop :=
  ∃ front, s = front ++ rest ∧ NoOpening front

theorem beforeOpening_append {s : List Char} (h : NoOpening s) (t : List Char) :
    beforeOpening (s ++ t) = s ++ beforeOpening t :=
  List.takeWhile_append_of_pos fun c hc => by rw [h c hc]; rfl

/-- A delimiter ends what stands before one. -/
theorem beforeOpening_cut_isPrefix (s : List Char) {c : Char} (hc : isOpening c = true)
    (t : List Char) : beforeOpening (s ++ c :: t) <+: s := by
  have hnil : (c :: t).takeWhile (fun c => !isOpening c) = [] :=
    List.takeWhile_cons_of_neg (by simp [hc])
  rw [beforeOpening, List.takeWhile_append, hnil, List.append_nil]
  split
  · exact List.prefix_rfl
  · exact List.takeWhile_prefix _

section
variable {α β : Type} {s t rest : List Char}

theorem leaves_trimLeft (s : List Char) : Leaves s (Text.trimLeft s) :=
  ⟨_, (Blanks.leading_append_trimLeft s).symm, (Blanks.leading s).noOpening⟩

theorem Leaves.cons {c : Char} (h : Leaves s (c :: t)) (hc : isOpening c = false) :
    Leaves s t := by
  obtain ⟨front, rfl, hfront⟩ := h
  exact ⟨front ++ [c], by simp, noOpening_append.2 ⟨hfront, by simp [NoOpening, hc]⟩⟩

theorem Leaves.trans (h : Leaves s t) (ht : Leaves t rest) : Leaves s rest := by
  obtain ⟨front, rfl, hfront⟩ := h
  obtain ⟨more, rfl, hmore⟩ := ht
  exact ⟨front ++ more, by simp, noOpening_append.2 ⟨hfront, hmore⟩⟩

theorem leaves_of_readNumber {v : Int} (h : readNumber s = .ok (v, rest)) : Leaves s rest := by
  obtain ⟨b, n, rfl, -⟩ := exists_of_readNumber h
  exact ⟨b.chars ++ n.text, by simp, noOpening_append.2 ⟨b.noOpening, n.noOpening_text⟩⟩

theorem leaves_of_readBound {v : Bound} (h : readBound s = .ok (v, rest)) : Leaves s rest := by
  obtain ⟨b, e, rfl, -⟩ := exists_of_readBound h
  exact ⟨b.chars ++ e.text, by simp, noOpening_append.2 ⟨b.noOpening, e.noOpening_text⟩⟩

theorem leaves_of_readSign {c : Char} (hc : isOpening c = false) {what : Wanted}
    (h : readSign c what s = .ok rest) : Leaves s rest := by
  obtain ⟨b, rfl⟩ := exists_of_readSign h
  exact Leaves.cons ⟨b.chars, rfl, b.noOpening⟩ hc

theorem limitedBy_ok (a : α) : LimitedBy s (.ok a) := by
  intro e h
  cases h

theorem LimitedBy.bind {x : Except Stop α} {f : α → Except Stop β} (hx : LimitedBy s x)
    (hf : ∀ a, x = .ok a → LimitedBy s (f a)) : LimitedBy s (x >>= f) := by
  intro e h
  rcases Except.bind_eq_error.1 h with h | ⟨a, ha, h⟩
  · exact hx e h
  · exact hf a ha e h

theorem LimitedBy.map {x : Except Stop α} (f : α → β) (hx : LimitedBy s x) :
    LimitedBy s (x.map f) :=
  fun e h => hx e (Except.map_eq_error.1 h)

/-- What limits a reader that goes on with the rest stands in the whole text, too. -/
theorem Leaves.limitedBy {x : Except Stop α} (h : Leaves s rest) (hx : LimitedBy rest x) :
    LimitedBy s x := by
  obtain ⟨front, rfl, hfront⟩ := h
  intro e he
  rw [beforeOpening_append hfront]
  exact (hx e he).of_isInfix (List.suffix_append _ _).isInfix

/-! Single tokens. -/

theorem limitedBy_readDigits (start s : List Char) : LimitedBy s (readDigits start s) := by
  intro e he
  have hdigit : ∀ c ∈ s.takeWhile Char.isDigit, c.isDigit = true :=
    List.all_eq_true.1 List.all_takeWhile
  simp only [readDigits, Decimal.read] at he
  split at he
  · cases he
  · split at he
    · cases he
    · rename_i e' hread
      cases he
      split at hread
      · cases hread
      · rename_i hlong
        cases hread
        refine ⟨s.takeWhile Char.isDigit, ?_, hdigit, rfl, Nat.lt_of_not_le hlong⟩
        rw [← List.takeWhile_append_dropWhile (p := Char.isDigit) (l := s),
          beforeOpening_append (noOpening_of_isDigit hdigit),
          List.takeWhile_append_dropWhile]
        exact (List.prefix_append _ _).isInfix

theorem limitedBy_readSigned (s : List Char) : LimitedBy s (readSigned s) := by
  unfold readSigned
  split
  · rename_i tail
    have hleaves : Leaves ('-' :: tail) tail := ⟨['-'], rfl, by simp [NoOpening, isOpening]⟩
    exact (hleaves.limitedBy (limitedBy_readDigits _ tail)).map _
  · exact (limitedBy_readDigits _ s).map _

theorem limitedBy_readNumber (s : List Char) : LimitedBy s (readNumber s) :=
  (leaves_trimLeft s).limitedBy (limitedBy_readSigned _)

theorem limitedBy_readBound (s : List Char) : LimitedBy s (readBound s) := by
  rw [readBound, readBoundHere.eq_def]
  split
  · exact limitedBy_ok _
  · exact limitedBy_ok _
  · exact limitedBy_ok _
  · exact limitedBy_ok _
  · exact (leaves_trimLeft s).limitedBy ((limitedBy_readSigned _).map _)

theorem limitedBy_readSign (c : Char) (what : Wanted) (t : List Char) :
    LimitedBy s (readSign c what t) := by
  intro e h
  unfold readSign at h
  split at h
  · split at h <;> cases h
  · cases h

theorem limitedBy_readBracket (t : List Char) : LimitedBy s (readBracket t) := by
  intro e h
  unfold readBracket at h
  split at h <;> cases h

/-! Whole expressions, one reader after the other. -/

theorem limitedBy_readMore (s : List Char) : LimitedBy s (readMore s) := by
  fun_induction readMore s with
  | case1 s tail ht v rest hv ih =>
      have htail : Leaves s tail := (ht ▸ leaves_trimLeft s).cons (by decide)
      exact (htail.trans (leaves_of_readNumber hv)).limitedBy (ih.map _)
  | case2 s tail ht e he =>
      have htail : Leaves s tail := (ht ▸ leaves_trimLeft s).cons (by decide)
      refine htail.limitedBy ?_
      rintro e' h'
      exact limitedBy_readNumber tail e' (he.trans (congrArg _ (Except.error.inj h')))
  | case3 s hne => exact limitedBy_ok _

theorem limitedBy_readSet (s : List Char) : LimitedBy s (readSet s) := by
  refine (limitedBy_readNumber s).bind fun ⟨first, s1⟩ h1 => ?_
  refine ((leaves_of_readNumber h1).limitedBy (limitedBy_readMore s1)).bind fun ⟨more, s2⟩ _ => ?_
  refine (limitedBy_readSign '}' .closingBrace s2).bind fun s3 _ => ?_
  exact limitedBy_ok _

theorem limitedBy_readRange (opening : Bracket) (s : List Char) :
    LimitedBy s (readRange opening s) := by
  refine (limitedBy_readBound s).bind fun ⟨lower, s1⟩ h1 => ?_
  refine (limitedBy_readSign ',' .comma s1).bind fun s2 h2 => ?_
  have hleaves : Leaves s s2 :=
    (leaves_of_readBound h1).trans (leaves_of_readSign (by decide) h2)
  refine (hleaves.limitedBy (limitedBy_readBound s2)).bind fun ⟨upper, s3⟩ _ => ?_
  refine (limitedBy_readBracket s3).bind fun ⟨closing, s4⟩ _ => ?_
  exact limitedBy_ok _

theorem longRun_of_readFront {e : Decimal.TooLong} (h : readFront s = .error (.tooLong e)) :
    LongRun (beforeOpening s.tail) e := by
  unfold readFront at h
  split at h
  · exact limitedBy_readSet _ e h
  · exact limitedBy_readRange _ _ e h
  · exact limitedBy_readRange _ _ e h
  · cases h

/-- At an opening delimiter, only the digits before the next one count. -/
theorem withinLimit_readFront (h : ShortRuns (beforeOpening s.tail)) : WithinLimit (readFront s) :=
  fun e he => h.not_longRun e (longRun_of_readFront he)

end

/-! An expression in such a text has no numeral that is too long. -/

theorem Numeral.fits_of_isInfix {n : Numeral} {s : List Char} (h : ShortRuns s)
    (hn : n.text <:+: s) : n.Fits := by
  have hwhole : n.whole.chars <:+: n.text := ⟨n.sign, point n.fraction, rfl⟩
  exact h n.whole.chars (hwhole.trans hn) n.whole.isDigit

theorem BoundExpr.fits_of_isInfix {b : BoundExpr} {s : List Char} (h : ShortRuns s)
    (hb : b.text <:+: s) : b.Fits := by
  cases b with
  | number n => exact Numeral.fits_of_isInfix h hb
  | minusInf | plusInf | inf | star => trivial

theorem Expression.fits_of_isInfix {e : Expression} {s : List Char} (h : ShortRuns s)
    (he : e.text <:+: s) : e.Fits := by
  have htext := h.of_isInfix he
  cases e with
  | set before first more after =>
      refine ⟨Numeral.fits_of_isInfix htext ?_, ?_⟩
      · exact ⟨'{' :: before.chars, more.flatMap Item.text ++ after.chars ++ ['}'], by simp [text]⟩
      · intro item hitem
        obtain ⟨xs, ys, rfl⟩ := List.append_of_mem hitem
        refine Numeral.fits_of_isInfix htext ⟨'{' :: before.chars ++ first.text ++
          xs.flatMap Item.text ++ item.beforeComma.chars ++ ',' :: item.afterComma.chars,
          ys.flatMap Item.text ++ after.chars ++ ['}'], by simp [text, Item.text]⟩
  | range opening b1 lower b2 b3 upper b4 closing =>
      refine ⟨BoundExpr.fits_of_isInfix htext ?_, BoundExpr.fits_of_isInfix htext ?_⟩
      · exact ⟨opening.char :: b1.chars, b2.chars ++ ',' :: b3.chars ++ upper.text ++ b4.chars ++
          [closing.char], by simp [text]⟩
      · exact ⟨opening.char :: b1.chars ++ lower.text ++ b2.chars ++ ',' :: b3.chars,
          b4.chars ++ [closing.char], by simp [text]⟩

/-- What cutting blanks off leaves is a part of the text. -/
theorem trim_isInfix (s : List Char) : Text.trim s <:+: s := by
  have hleft : Text.trimLeft s <:+: s := (List.dropWhile_suffix _).isInfix
  exact (Text.trimRight_isPrefix (Text.trimLeft s)).isInfix.trans hleft

/-! Whole texts. -/

theorem longRun_of_read {text : List Char} {e : Decimal.TooLong}
    (h : read text = .error (.tooLong e)) : LongRun text e := by
  simp only [read] at h
  split at h
  · cases h
  · cases h
  · cases h
  · rename_i e' he
    cases h
    refine (longRun_of_readFront he).of_isInfix ?_
    exact ((List.takeWhile_prefix _).isInfix.trans (List.tail_suffix _).isInfix).trans
      (trim_isInfix text)

theorem longRun_of_search {s : List Char} {e : Decimal.TooLong} (h : search s = .error e) :
    LongRun s e := by
  induction s with
  | nil => cases h
  | cons c s ih =>
      have htail : search s = .error e → LongRun (c :: s) e := fun hs =>
        (ih hs).of_isInfix (List.suffix_cons _ _).isInfix
      simp only [search] at h
      split at h
      · split at h
        · cases h
        · exact htail h
        · rename_i e' he
          cases h
          refine (longRun_of_readFront he).of_isInfix ?_
          exact (List.takeWhile_prefix _).isInfix.trans (List.suffix_cons _ _).isInfix
      · exact htail h

theorem read_ne_tooLong {text : List Char} (h : ShortRuns text) (e : Decimal.TooLong) :
    read text ≠ .error (.tooLong e) :=
  fun he => h.not_longRun e (longRun_of_read he)

theorem search_ne_error {s : List Char} (h : ShortRuns s) (e : Decimal.TooLong) :
    search s ≠ .error e :=
  fun he => h.not_longRun e (longRun_of_search he)

end Interval
end PluralMessage
