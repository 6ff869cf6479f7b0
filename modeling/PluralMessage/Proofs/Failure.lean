import PluralMessage.Proofs.Lint

/-!
How requests on texts fail. An error is one of the library's own, which it reports in words of its
own, or it is the limit on digits, met at a run in the text that was given. Search, splitting and
lint have no errors of their own: on a text without such a run they never fail, and what is wrong
with a rule shows up as an issue.
-/
namespace PluralMessage
open Decimal (LongRun maxDigits)

/-- The errors that the library reports in words of its own. The limits on digits are none. -/
def Error.IsOwn : Error → Prop
  | interval _ | argument _ | form _ => True
  | tooLong _ | tooLarge => False

/-- The error is the library's own, or the limit on digits for a run of digits in the text. -/
def Error.OwnOrLongRun (s : List Char) (e : Error) : Prop :=
  e.IsOwn ∨ ∃ limit, e = tooLong limit ∧ LongRun s limit

theorem Error.ownOrLongRun_of_read {s t : List Char} {e : Interval.ReadError}
    (h : Interval.read s = .error e) (hs : s <:+: t) : (ofRead e).OwnOrLongRun t := by
  cases e with
  | malformed cause => exact .inl trivial
  | tooLong limit => exact .inr ⟨limit, rfl, (Interval.longRun_of_read h).of_isInfix hs⟩

theorem Value.ownOrLongRun_of_readInterval {s : String} {e : Error}
    (h : readInterval (.text s) = .error e) : e.OwnOrLongRun s.toList := by
  obtain ⟨cause, hcause, rfl⟩ := Except.mapError_eq_error.1 h
  exact Error.ownOrLongRun_of_read hcause List.infix_rfl

namespace Template

theorem longRun_of_readPiece {piece : List Char} {e : Decimal.TooLong}
    (h : readPiece piece = .error e) : LongRun piece e := by
  simp only [readPiece] at h
  split at h
  · cases h
  · cases h
  · rename_i e' he
    cases h
    exact (Interval.longRun_of_search he).of_isInfix (Interval.trim_isInfix piece)

theorem longRun_of_split {message : List Char} {e : Decimal.TooLong}
    (h : split message = .error e) : LongRun message e := by
  rw [split] at h
  split at h
  · cases h
  · obtain ⟨piece, hpiece, he⟩ := Except.exists_of_mapM_eq_error h
    exact (longRun_of_readPiece he).of_isInfix (infix_of_mem_pieces hpiece)

/-- The search for a rule fails at a rule that cannot be read. -/
theorem exists_of_firstMatch {count : Int} {vs : List Variant} {start : Nat} {e : Error}
    (h : firstMatch count start vs = .error e) :
    ∃ v ∈ vs, ∃ rule cause, v.rule = some rule ∧ Interval.read rule = .error cause ∧
      e = Error.ofRead cause := by
  induction vs generalizing start with
  | nil => cases h
  | cons v vs ih =>
      have htail : ∀ start, firstMatch count start vs = .error e →
          ∃ w ∈ v :: vs, ∃ rule cause, w.rule = some rule ∧
            Interval.read rule = .error cause ∧ e = Error.ofRead cause := by
        intro start hs
        obtain ⟨w, hw, hrule⟩ := ih hs
        exact ⟨w, List.mem_cons_of_mem v hw, hrule⟩
      obtain ⟨text, rule⟩ := v
      cases rule with
      | none => exact htail _ h
      | some rule =>
          simp only [firstMatch] at h
          split at h
          · split at h
            · cases h
            · exact htail _ h
          · rename_i cause hcause
            cases h
            exact ⟨_, List.mem_cons_self, rule, cause, rfl, hcause, rfl⟩

end Template

theorem Settings.ownOrLongRun_of_choose {settings : Settings} {message : List Char} {count : Int}
    {locale : Option String} {e : Error} (h : settings.choose message count locale = .error e) :
    e.OwnOrLongRun message := by
  by_cases hsep : Template.separator ∈ message
  · cases hs : Template.split message with
    | error limit =>
        rcases Except.bind_eq_error.1 h with h | ⟨vs, hvs, -⟩
        · obtain ⟨limit, hlimit, rfl⟩ := Except.mapError_eq_error.1 h
          exact .inr ⟨limit, rfl, Template.longRun_of_split hlimit⟩
        · rw [hs] at hvs
          cases hvs
    | ok vs =>
        rw [settings.choose_of_mem hsep hs] at h
        rcases Except.bind_eq_error.1 h with h | ⟨found, -, h⟩
        · obtain ⟨v, hv, rule, cause, hr, hcause, rfl⟩ := Template.exists_of_firstMatch h
          exact Error.ownOrLongRun_of_read hcause (Template.rule_infix_of_split hs hv hr)
        · cases found with
          | some choice => cases h
          | none =>
              simp only [choosePlural] at h
              split at h
              · cases h
              · cases h
                exact .inl trivial
  · rw [settings.choose_of_notMem hsep] at h
    cases h

namespace Lint

theorem exists_of_variantIssues {v : Variant} {k : Nat} {e : Decimal.TooLong}
    (h : variantIssues k v = .error e) :
    ∃ rule, v.rule = some rule ∧ Interval.read rule = .error (.tooLong e) := by
  rcases Except.bind_eq_error.1 h with h | ⟨own, -, h⟩
  · simp only [ruleIssues] at h
    split at h
    · cases h
    · rename_i rule hr
      split at h
      · cases h
      · cases h
      · rename_i limit hlimit
        cases h
        exact ⟨rule, hr, hlimit⟩
  · cases h

/-- The issues of variants cannot be listed if the rule of one has a number that is too long. -/
theorem exists_of_variantsIssues {vs : List Variant} {k : Nat} {e : Decimal.TooLong}
    (h : variantsIssues k vs = .error e) :
    ∃ v ∈ vs, ∃ rule, v.rule = some rule ∧ Interval.read rule = .error (.tooLong e) := by
  induction vs generalizing k with
  | nil => cases h
  | cons v vs ih =>
      rcases Except.bind_eq_error.1 h with h | ⟨own, -, h⟩
      · exact ⟨v, List.mem_cons_self, exists_of_variantIssues h⟩
      · rcases Except.bind_eq_error.1 h with h | ⟨more, -, h⟩
        · obtain ⟨w, hw, hrule⟩ := ih h
          exact ⟨w, List.mem_cons_of_mem v hw, hrule⟩
        · cases h

theorem longRun_of_check {message : List Char} {locale : String} {e : Decimal.TooLong}
    (h : check message locale = .error e) : LongRun message e := by
  rcases Except.bind_eq_error.1 h with h | ⟨vs, hs, h⟩
  · exact Template.longRun_of_split h
  · split at h
    · cases h
    · rcases Except.bind_eq_error.1 h with h | ⟨own, -, h⟩
      · obtain ⟨v, hv, rule, hr, hlimit⟩ := exists_of_variantsIssues h
        exact (Interval.longRun_of_read hlimit).of_isInfix (Template.rule_infix_of_split hs hv hr)
      · cases h

/-- A report that there is names every malformed rule. -/
theorem mem_of_malformed {message : List Char} {locale : String} {issues : List Issue}
    (h : check message locale = .ok issues) {vs : List Variant}
    (hs : Template.split message = .ok vs) {i : Nat} {v : Variant} {cause : Interval.Malformed}
    (hi : vs[i]? = some v) (hv : v.Malformed cause) : .invalidInterval i cause ∈ issues := by
  by_cases hsep : Template.separator ∈ message
  · obtain ⟨vs', own, hs', hown, rfl⟩ := check_of_mem hsep h
    cases hs.symm.trans hs'
    have hmem := mem_variantsIssues hown hi hv
    rw [Nat.zero_add] at hmem
    exact mem_report.2 (.inr (.inl hmem))
  · -- Without a separator the one variant has no rule.
    rw [Template.split, Template.isSingle_of_notMem hsep, if_pos rfl] at hs
    cases hs
    obtain ⟨rule, hr, -⟩ := hv
    obtain rfl : v = ⟨message, none⟩ := by
      simpa using List.mem_of_getElem? hi
    cases hr

end Lint

/-! The limit is met in the first number of a set that is never closed. -/

section
variable {run : List Char} (hdigit : ∀ c ∈ run, c.isDigit = true)
include hdigit

theorem Interval.trim_set_run : Text.trim ('{' :: run) = '{' :: run :=
  Text.trim_of_trimmed (Text.trimmed_of_no_blank
    (List.forall_mem_cons.2 ⟨by decide, fun c hc => not_isBlank_of_isDigit (hdigit c hc)⟩))

variable (hlong : maxDigits < run.length)
include hlong

theorem Interval.readDigits_longRun (start : List Char) :
    readDigits start run = .error (.tooLong ⟨run.length⟩) := by
  have htake := Text.takeWhile_run hdigit (Text.clear_nil Char.isDigit)
  have hne : run.isEmpty = false := by
    cases run with
    | nil => cases hlong
    | cons => rfl
  rw [List.append_nil] at htake
  simp only [readDigits, htake, hne, Bool.false_eq_true, ↓reduceIte, Decimal.read,
    Nat.not_le.2 hlong]

theorem Interval.readFront_longRun :
    readFront ('{' :: run) = .error (.tooLong ⟨run.length⟩) := by
  obtain ⟨c, rest, rfl⟩ : ∃ c rest, run = c :: rest :=
    List.exists_cons_of_ne_nil (List.ne_nil_of_length_pos (Nat.zero_lt_of_lt hlong))
  have hc : c.isDigit = true := hdigit c List.mem_cons_self
  have hsign : c ≠ '-' := by
    rintro rfl
    cases hc
  have htrim : Text.trimLeft (c :: rest) = c :: rest :=
    Text.trimLeft_of_clear (Text.clear_cons.2 (not_isBlank_of_isDigit hc))
  have hnumber : readNumber (c :: rest) = .error (.tooLong ⟨(c :: rest).length⟩) := by
    rw [readNumber, htrim, readSigned]
    · rw [readDigits_longRun hdigit hlong]
      rfl
    · rintro tail ⟨⟩
      exact hsign rfl
  exact Except.bind_eq_error.2 (.inl hnumber)

theorem Interval.search_longRun : search ('{' :: run) = .error ⟨run.length⟩ := by
  simp only [search, isOpening, beq_self_eq_true, Bool.true_or, ↓reduceIte,
    readFront_longRun hdigit hlong]

theorem Interval.read_longRun : read ('{' :: run) = .error (.tooLong ⟨run.length⟩) := by
  simp only [read, trim_set_run hdigit, readFront_longRun hdigit hlong]

theorem Template.readPiece_longRun : readPiece ('{' :: run) = .error ⟨run.length⟩ := by
  simp only [readPiece, Interval.trim_set_run hdigit, Interval.search_longRun hdigit hlong]

theorem Template.split_longRun (s : List Char) :
    split ('{' :: run ++ separator :: s) = .error ⟨run.length⟩ := by
  have hsep : separator ∉ '{' :: run := by
    rintro h
    rcases List.mem_cons.1 h with h | h
    · cases h
    · exact absurd (hdigit _ h) (by decide)
  rw [split_of_mem (by simp), pieces_append hsep, List.mapM_cons]
  exact Except.bind_eq_error.2 (.inl (readPiece_longRun hdigit hlong))

end

/-- Reading an interval and choosing a variant fail with an own error or at a run of digits in the
text that is too long. Such a run is all that makes the search, splitting or lint fail; otherwise
lint has an issue for every malformed rule. -/
theorem failures_of_texts (settings : Settings) (s : String) (message : List Char) (count : Int)
    (locale : String) :
    (∀ e, Value.readInterval (.text s) = .error e → e.OwnOrLongRun s.toList) ∧
    (∀ e, settings.choose message count (some locale) = .error e → e.OwnOrLongRun message) ∧
    (∀ e, Interval.search s.toList = .error e → LongRun s.toList e) ∧
    (∀ e, Template.split message = .error e → LongRun message e) ∧
    (∀ e, Lint.check message locale = .error e → LongRun message e) ∧
    ∀ issues vs, Lint.check message locale = .ok issues → Template.split message = .ok vs →
      ∀ (i : Nat) v cause, vs[i]? = some v → v.Malformed cause →
        .invalidInterval i cause ∈ issues := by
  refine ⟨?_, ?_, ?_, ?_, ?_, ?_⟩
  · intro e h
    exact Value.ownOrLongRun_of_readInterval h
  · intro e h
    exact Settings.ownOrLongRun_of_choose h
  · intro e h
    exact Interval.longRun_of_search h
  · intro e h
    exact Template.longRun_of_split h
  · intro e h
    exact Lint.longRun_of_check h
  · intro issues vs h hs i v cause hi hv
    exact Lint.mem_of_malformed h hs hi hv

/-- A set that is not closed, behind a number of one digit too many. -/
def unclosed : List Char :=
  '{' :: List.replicate (maxDigits + 1) '1'

theorem failures_of_texts_unclosed :
    Interval.search unclosed = .error ⟨4301⟩ ∧
      Value.readInterval (.text (String.ofList unclosed)) = .error (.tooLong ⟨4301⟩) ∧
      Template.split (unclosed ++ ['|']) = .error ⟨4301⟩ ∧
      Lint.check (unclosed ++ ['|']) "en" = .error ⟨4301⟩ ∧
      Settings.initial.choose (unclosed ++ ['|']) 1 (some "en") = .error (.tooLong ⟨4301⟩) ∧
      ¬ (Error.tooLong ⟨4301⟩).IsOwn := by
  have hdigit : ∀ c ∈ List.replicate (maxDigits + 1) '1', c.isDigit = true := by
    intro c hc
    rw [List.eq_of_mem_replicate hc]
    rfl
  have hlength : (List.replicate (maxDigits + 1) '1').length = 4301 := List.length_replicate
  have hlong : maxDigits < (List.replicate (maxDigits + 1) '1').length := by
    rw [hlength]
    decide
  have hsearch := Interval.search_longRun hdigit hlong
  have hread := Interval.read_longRun hdigit hlong
  have hsplit := Template.split_longRun hdigit hlong []
  rw [hlength] at hsearch hread hsplit
  refine ⟨hsearch, ?_, hsplit, ?_, ?_, id⟩
  · rw [Value.readInterval, String.toList_ofList, unclosed, hread]
    rfl
  · exact Except.bind_eq_error.2 (.inl hsplit)
  · exact Except.bind_eq_error.2 (.inl (Except.mapError_eq_error.2 ⟨_, hsplit, rfl⟩))

end PluralMessage
