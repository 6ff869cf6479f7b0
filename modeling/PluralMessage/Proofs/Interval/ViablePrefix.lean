import PluralMessage.Proofs.Interval.Leftmost

/-!
Where reading stops. Each reader that misses a token has passed over the blanks in front of it and
nothing else, so what was read up to there is the beginning of an expression that wants to go on. A
complete expression does not, for none is a proper beginning of another; text that follows one is
the only fault that is found behind it.
-/
namespace PluralMessage.Interval

/-! Single tokens. -/

section
variable {s rest : List Char} {what : Wanted}

theorem rest_of_readDigits {start : List Char}
    (h : readDigits start s = .error (.wanted what rest)) : rest = start := by
  simp only [readDigits] at h
  split at h
  · cases h
    rfl
  · split at h <;> cases h

theorem rest_of_readSigned (h : readSigned s = .error (.wanted what rest)) : rest = s := by
  unfold readSigned at h
  split at h
  · exact rest_of_readDigits (Except.map_eq_error.1 h)
  · exact rest_of_readDigits (Except.map_eq_error.1 h)

theorem rest_of_readNumber (h : readNumber s = .error (.wanted what rest)) :
    rest = Text.trimLeft s :=
  rest_of_readSigned h

theorem rest_of_readBound (h : readBound s = .error (.wanted what rest)) :
    rest = Text.trimLeft s := by
  simp only [readBound] at h
  unfold readBoundHere at h
  split at h
  · cases h
  · cases h
  · cases h
  · cases h
  · exact rest_of_readSigned (Except.map_eq_error.1 h)

theorem rest_of_readSign {c : Char} {wanted : Wanted}
    (h : readSign c wanted s = .error (.wanted what rest)) : rest = Text.trimLeft s := by
  unfold readSign at h
  split at h
  · rename_i ht
    split at h
    · cases h
    · cases h
      exact ht.symm
  · rename_i ht
    cases h
    exact ht.symm

theorem rest_of_readBracket (h : readBracket s = .error (.wanted what rest)) :
    rest = Text.trimLeft s := by
  unfold readBracket at h
  split at h
  · cases h
  · cases h
  · cases h
    rfl

/-- A further number of a set is missed behind its comma. -/
theorem exists_of_readMore_error (h : readMore s = .error (.wanted what rest)) :
    ∃ (items : List Item) (before : Blanks) (tail : List Char),
      s = items.flatMap Item.text ++ (before.chars ++ ',' :: tail) ∧ rest = Text.trimLeft tail := by
  fun_induction readMore s with
  | case1 s tail ht v next hv ih =>
      obtain ⟨items, before, tail', rfl, hrest⟩ := ih (Except.map_eq_error.1 h)
      obtain ⟨b, n, rfl, -⟩ := exists_of_readNumber hv
      refine ⟨⟨Blanks.leading s, b, n⟩ :: items, before, tail', ?_, hrest⟩
      have hs := Blanks.leading_append_trimLeft s
      rw [ht] at hs
      simpa [Item.text] using hs.symm
  | case2 s tail ht e he =>
      cases h
      refine ⟨[], Blanks.leading s, tail, ?_, rest_of_readNumber he⟩
      rw [List.flatMap_nil, List.nil_append, ← ht, Blanks.leading_append_trimLeft]
  | case3 s hne => cases h

end

/-! Whole expressions. -/

def Blanks.append (a b : Blanks) : Blanks where
  chars := a.chars ++ b.chars
  isBlank := List.forall_mem_append.2 ⟨a.isBlank, b.isBlank⟩

/-- A numeral that may stand where one is missed. -/
def zero : Numeral where
  negative := false
  whole := ⟨['0'], by decide, by simp⟩
  fraction := none

theorem text_zero : zero.text = ['0'] :=
  rfl

/-- A beginning of an expression that is not all of it. -/
def Unfinished (s : List Char) : Prop :=
  ∃ (e : Expression) (more : List Char), more ≠ [] ∧ s ++ more = e.text

theorem Unfinished.exists_isPrefix {s : List Char} (h : Unfinished s) :
    ∃ e : Expression, s <+: e.text := by
  obtain ⟨e, more, -, htext⟩ := h
  exact ⟨e, more, htext⟩

theorem Unfinished.not_isExpression {s : List Char} (h : Unfinished s) : ¬ IsExpression s := by
  rintro ⟨f, rfl⟩
  obtain ⟨e, more, hmore, htext⟩ := h
  obtain rfl := Expression.eq_of_isPrefix ⟨more, htext⟩
  exact hmore (List.append_right_eq_self.1 htext)

theorem unfinished_nil : Unfinished [] :=
  ⟨.set noBlanks zero [] noBlanks, _, Expression.text_ne_nil _, List.nil_append _⟩

/-- The text is unfinished up to the rest, and no blank stands there. -/
structure StopsAt (s rest : List Char) : Prop where
  exists_unfinished : ∃ consumed, s = consumed ++ rest ∧ Unfinished consumed
  clear : Text.Clear Text.isBlank rest

/-- Blanks in front of a missing token have been read. -/
theorem stopsAt_of_missing {consumed tail s rest : List Char} (hs : s = consumed ++ tail)
    (hrest : rest = Text.trimLeft tail)
    (h : Unfinished (consumed ++ (Blanks.leading tail).chars)) : StopsAt s rest where
  exists_unfinished := by
    refine ⟨_, ?_, h⟩
    rw [hs, hrest, List.append_assoc, Blanks.leading_append_trimLeft]
  clear := by
    rw [hrest]
    exact Text.clear_dropWhile _ tail

section
variable {s rest : List Char} {what : Wanted}

/-- A set lacks its first number, the number behind a comma, or its closing brace. -/
theorem stopsAt_readSet (h : readSet s = .error (.wanted what rest)) :
    StopsAt ('{' :: s) rest := by
  rcases Except.bind_eq_error.1 h with hnumber | ⟨⟨v, s1⟩, hfirst, h1⟩
  · have hsplit : '{' :: s = ['{'] ++ s := rfl
    exact stopsAt_of_missing hsplit (rest_of_readNumber hnumber)
      ⟨.set (.leading s) zero [] noBlanks, ['0', '}'], by simp,
        by simp [Expression.text, text_zero, noBlanks]⟩
  obtain ⟨before, first, hs, -⟩ := exists_of_readNumber hfirst
  rcases Except.bind_eq_error.1 h1 with hitem | ⟨⟨vs, s2⟩, hmore, h2⟩
  · obtain ⟨items, b, tail, hs1, hrest⟩ := exists_of_readMore_error hitem
    have hsplit : '{' :: s = ('{' :: before.chars ++ first.text ++ items.flatMap Item.text ++
        b.chars ++ [',']) ++ tail := by simp [hs, hs1]
    exact stopsAt_of_missing hsplit hrest
      ⟨.set before first (items ++ [⟨b, .leading tail, zero⟩]) noBlanks, ['0', '}'], by simp,
        by simp [Expression.text, Item.text, text_zero, noBlanks]⟩
  obtain ⟨items, after, hs1, -⟩ := exists_of_readMore hmore
  rcases Except.bind_eq_error.1 h2 with hclose | ⟨s3, -, h3⟩
  · have hsplit : '{' :: s = ('{' :: before.chars ++ first.text ++ items.flatMap Item.text ++
        after.chars) ++ s2 := by simp [hs, hs1]
    exact stopsAt_of_missing hsplit (rest_of_readSign hclose)
      ⟨.set before first items (after.append (.leading s2)), ['}'], by simp,
        by simp [Expression.text, Blanks.append]⟩
  · cases h3

/-- A range lacks its lower bound, its comma, its upper bound or its closing bracket. -/
theorem stopsAt_readRange (opening : Bracket)
    (h : readRange opening s = .error (.wanted what rest)) :
    StopsAt (opening.char :: s) rest := by
  rcases Except.bind_eq_error.1 h with hbound | ⟨⟨l, s1⟩, hlower, h1⟩
  · have hsplit : opening.char :: s = [opening.char] ++ s := rfl
    exact stopsAt_of_missing hsplit (rest_of_readBound hbound)
      ⟨.range opening (.leading s) .star noBlanks noBlanks .star noBlanks .right,
        ['*', ',', '*', ']'], by simp,
        by simp [Expression.text, BoundExpr.text, noBlanks, Bracket.char]⟩
  obtain ⟨b1, lower, hs, -⟩ := exists_of_readBound hlower
  rcases Except.bind_eq_error.1 h1 with hmissing | ⟨s2, hcomma, h2⟩
  · have hsplit : opening.char :: s = (opening.char :: b1.chars ++ lower.text) ++ s1 := by
      simp [hs]
    exact stopsAt_of_missing hsplit (rest_of_readSign hmissing)
      ⟨.range opening b1 lower (.leading s1) noBlanks .star noBlanks .right, [',', '*', ']'],
        by simp, by simp [Expression.text, BoundExpr.text, noBlanks, Bracket.char]⟩
  obtain ⟨b2, hs1⟩ := exists_of_readSign hcomma
  rcases Except.bind_eq_error.1 h2 with hbound | ⟨⟨u, s3⟩, hupper, h3⟩
  · have hsplit : opening.char :: s =
        (opening.char :: b1.chars ++ lower.text ++ b2.chars ++ [',']) ++ s2 := by simp [hs, hs1]
    exact stopsAt_of_missing hsplit (rest_of_readBound hbound)
      ⟨.range opening b1 lower b2 (.leading s2) .star noBlanks .right, ['*', ']'], by simp,
        by simp [Expression.text, BoundExpr.text, noBlanks, Bracket.char]⟩
  obtain ⟨b3, upper, hs2, -⟩ := exists_of_readBound hupper
  rcases Except.bind_eq_error.1 h3 with hmissing | ⟨⟨k, s4⟩, -, h4⟩
  · have hsplit : opening.char :: s = (opening.char :: b1.chars ++ lower.text ++ b2.chars ++
        ',' :: b3.chars ++ upper.text) ++ s3 := by simp [hs, hs1, hs2]
    exact stopsAt_of_missing hsplit (rest_of_readBracket hmissing)
      ⟨.range opening b1 lower b2 b3 upper (.leading s3) .right, [']'], by simp,
        by simp [Expression.text, Bracket.char]⟩
  · cases h4

/-- Where no interval begins, nothing has been read. -/
theorem stopsAt_readFront (hs : Text.Clear Text.isBlank s)
    (h : readFront s = .error (.wanted what rest)) : StopsAt s rest := by
  unfold readFront at h
  split at h
  · exact stopsAt_readSet h
  · exact stopsAt_readRange .left h
  · exact stopsAt_readRange .right h
  · cases h
    exact ⟨⟨[], rfl, unfinished_nil⟩, hs⟩

end

/-! Whole texts. -/

/-- Faults are of two kinds: an expression with text behind it, and one that is not finished. -/
theorem cases_of_read_error {text : List Char} {cause : Malformed}
    (h : read text = .error (.malformed cause)) :
    (∃ (e : Expression) (rest : List Char), Text.trim text = e.text ++ rest ∧ rest ≠ [] ∧
        cause = .trailing text e.text.length) ∨
      ∃ (what : Wanted) (consumed rest : List Char), Text.trim text = consumed ++ rest ∧
        Unfinished consumed ∧ Text.Clear Text.isBlank rest ∧
        cause = .wanted what (Text.trim text) consumed.length := by
  simp only [read] at h
  split at h
  · cases h
  · rename_i hne hread
    cases h
    obtain ⟨e, htext, -⟩ := exists_of_readFront hread
    refine .inl ⟨e, _, htext, hne, ?_⟩
    rw [htext, List.length_append, Nat.add_sub_cancel_right]
  · rename_i what rest hread
    cases h
    obtain ⟨⟨consumed, htext, hunfinished⟩, hclear⟩ :=
      stopsAt_readFront (Text.trimmed_trim text).1 hread
    refine .inr ⟨what, consumed, rest, htext, hunfinished, hclear, ?_⟩
    rw [htext, List.length_append, Nat.add_sub_cancel_right]
  · cases h

theorem exists_of_readInterval_error {s : String} {e : InvalidInterval}
    (h : Value.readInterval (.text s) = .error (.interval e)) :
    ∃ cause, read s.toList = .error (.malformed cause) ∧ e = cause.report := by
  obtain ⟨cause, hcause, he⟩ := Except.mapError_eq_error.1 h
  cases cause with
  | malformed cause => exact ⟨cause, hcause, (Error.interval.inj he).symm⟩
  | tooLong limit => cases he

/-- The report of a missing token starts in another way than that of text behind an expression. -/
theorem describe_ne_trailing (what : Wanted) (p : Nat) :
    s!"{what.describe} at position {p}" ≠ s!"unexpected trailing text at position {p}" := by
  intro h
  have hwanted : (toString what.describe).toList.head? = some 'e' := by
    cases what <;> decide
  have htrailing : (toString "unexpected trailing text at position ").toList.head? = some 'u' := by
    decide
  have hfirst := congrArg (fun s => s.toList.head?) h
  simp only [String.toList_append, List.head?_append, hwanted, htrailing, Option.some_or,
    Option.some.injEq] at hfirst
  exact absurd hfirst (by decide)

/-- A text that is no interval is reported at a place up to which it is the beginning of an
expression. If what stands before the place is all of an expression, the text goes on and just this
is reported; otherwise a token is missed there, and the place is at the end or not at a blank. -/
theorem reported_at_viable_prefix {s : String} {e : InvalidInterval}
    (h : Value.readInterval (.text s) = .error (.interval e)) :
    ∃ p, p ≤ (Text.trim s.toList).length ∧
      (∃ x : Expression, (Text.trim s.toList).take p <+: x.text) ∧
      (e.reason = some s!"unexpected trailing text at position {p}" ↔
        p < (Text.trim s.toList).length ∧ IsExpression ((Text.trim s.toList).take p)) ∧
      (e.reason ≠ some s!"unexpected trailing text at position {p}" →
        (∃ what : Wanted, e.reason = some s!"{what.describe} at position {p}") ∧
        (p = (Text.trim s.toList).length ∨
          ∃ c, (Text.trim s.toList)[p]? = some c ∧ Text.isBlank c = false)) := by
  obtain ⟨cause, hread, rfl⟩ := exists_of_readInterval_error h
  rcases cases_of_read_error hread with
    ⟨x, rest, htext, hrest, rfl⟩ | ⟨what, consumed, rest, htext, hunfinished, hclear, rfl⟩
  · refine ⟨x.text.length, ?_⟩
    rw [htext, List.take_left]
    have hlength : 0 < rest.length := List.length_pos_iff.2 hrest
    refine ⟨by simp, ⟨x, List.prefix_rfl⟩, ?_, fun hne => absurd rfl hne⟩
    exact iff_of_true rfl ⟨by simpa using hlength, x, rfl⟩
  · refine ⟨consumed.length, ?_⟩
    have hne : (Malformed.wanted what (Text.trim s.toList) consumed.length).report.reason ≠
        some s!"unexpected trailing text at position {consumed.length}" :=
      fun heq => describe_ne_trailing what _ (Option.some.inj heq)
    rw [htext, List.take_left] at *
    refine ⟨by simp, hunfinished.exists_isPrefix, ?_, fun _ => ⟨⟨what, rfl⟩, ?_⟩⟩
    · exact iff_of_false hne fun hexpr => hunfinished.not_isExpression hexpr.2
    · cases rest with
      | nil => simp
      | cons c rest => exact .inr ⟨c, by simp, Text.clear_cons.1 hclear⟩

/-- A range that breaks off where its upper bound is wanted. -/
def brokenOff : String :=
  "\t]1, -["

def brokenOffReport : InvalidInterval :=
  ⟨.text "]1, -[", some "expected a number at position 4"⟩

theorem reported_at_viable_prefix_broken_off :
    Value.readInterval (.text brokenOff) = .error (.interval brokenOffReport) ∧
      ∃ p ≤ 6, (∃ x : Expression, "]1, -[".toList.take p <+: x.text) ∧
        (brokenOffReport.reason ≠ some s!"unexpected trailing text at position {p}" →
          ∃ what : Wanted, brokenOffReport.reason = some s!"{what.describe} at position {p}") := by
  have hread : Value.readInterval (.text brokenOff) = .error (.interval brokenOffReport) := by rfl
  have htrim : Text.trim brokenOff.toList = "]1, -[".toList := by decide
  obtain ⟨p, hp, hviable, -, hmissing⟩ := reported_at_viable_prefix hread
  rw [htrim] at hp hviable
  exact ⟨hread, p, hp, hviable, fun hne => (hmissing hne).1⟩

end PluralMessage.Interval
