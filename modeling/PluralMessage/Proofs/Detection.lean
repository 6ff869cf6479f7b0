import PluralMessage.Proofs.Interval.Printing
import PluralMessage.Proofs.Interval.Recognition
import PluralMessage.Proofs.Lint

/-!
Detection of rules. A piece of a template has a rule if an interval occurs anywhere in it, while the
rule is its first word. The two agree on pieces that start with an interval that is a word of its
own; on every other piece with an interval the rule is malformed, so a rule that was meant is never
taken for text and never read as another one.
-/
namespace PluralMessage
open PluralMessage.Interval (Expression)

namespace Interval

/-- The text starts with the expression, which is a word of it: it has no blanks, and behind it the
text ends or goes on with a blank. -/
structure LeadingWord (s : List Char) (e : Expression) (rest : List Char) : Prop where
  eq_append : s = e.text ++ rest
  no_blank : ∀ c ∈ e.text, Text.isBlank c = false
  ends : Text.Clear (fun c => !Text.isBlank c) rest

namespace LeadingWord

variable {s rest : List Char} {e : Expression}

theorem firstWord_eq (h : LeadingWord s e rest) : Text.firstWord s = e.text := by
  rw [h.eq_append, Text.firstWord_append h.no_blank h.ends]

theorem afterFirstWord_eq (h : LeadingWord s e rest) :
    Text.afterFirstWord s = Text.trimLeft rest := by
  rw [h.eq_append, Text.afterFirstWord_append h.no_blank h.ends]

theorem read_firstWord (hs : Decimal.ShortRuns s) (h : LeadingWord s e rest) :
    read (Text.firstWord s) = .ok e.value := by
  have hfits : e.Fits := e.fits_of_isInfix hs ⟨[], rest, h.eq_append.symm⟩
  refine read_eq_ok_iff.2 ⟨e, ?_, hfits, rfl⟩
  rw [Text.trim_firstWord, h.firstWord_eq]

end LeadingWord

/-- The first word is read only if it is an interval, which then stands at the front. -/
theorem exists_leadingWord {s : List Char} {i : Interval} (h : read (Text.firstWord s) = .ok i) :
    ∃ e rest, LeadingWord s e rest := by
  obtain ⟨e, htext, -, -⟩ := read_eq_ok_iff.1 h
  rw [Text.trim_firstWord] at htext
  refine ⟨e, s.dropWhile fun c => !Text.isBlank c, ?_, ?_, Text.clear_dropWhile _ s⟩
  · rw [htext]
    exact List.takeWhile_append_dropWhile.symm
  · intro c hc
    rw [htext] at hc
    exact Text.not_isBlank_of_mem_firstWord hc

theorem read_firstWord_iff {s : List Char} (hs : Decimal.ShortRuns s) :
    (∃ i, read (Text.firstWord s) = .ok i) ↔ ∃ e rest, LeadingWord s e rest := by
  constructor
  · rintro ⟨i, hi⟩
    exact exists_leadingWord hi
  · rintro ⟨e, rest, h⟩
    exact ⟨e.value, h.read_firstWord hs⟩

theorem malformed_firstWord {s : List Char} (hs : Decimal.ShortRuns s)
    (h : ∀ e rest, ¬ LeadingWord s e rest) :
    ∃ cause, read (Text.firstWord s) = .error (.malformed cause) := by
  have hword : Decimal.ShortRuns (Text.firstWord s) :=
    hs.of_isInfix (List.takeWhile_prefix _).isInfix
  cases hread : read (Text.firstWord s) with
  | ok i =>
      obtain ⟨e, rest, hleading⟩ := exists_leadingWord hread
      exact absurd hleading (h e rest)
  | error e =>
      cases e with
      | malformed cause => exact ⟨cause, rfl⟩
      | tooLong e => exact absurd hread (read_ne_tooLong hword e)

end Interval

namespace Template
open PluralMessage.Interval (LeadingWord)

/-- A piece with an interval is a variant whose rule is the first word. -/
theorem variant_of_isInfix {message : List Char} {vs : List Variant} (hsep : separator ∈ message)
    (hruns : Decimal.ShortRuns message) (hs : split message = .ok vs) {i : Nat} {piece : List Char}
    (hi : (pieces message)[i]? = some piece) {e : Expression} (he : e.text <:+: Text.trim piece) :
    vs[i]? = some ⟨Text.afterFirstWord (Text.trim piece),
      some (Text.firstWord (Text.trim piece))⟩ := by
  have hpiece := hruns.of_isInfix (infix_of_mem_pieces (List.mem_of_getElem? hi))
  rw [split_of_mem hsep] at hs
  obtain ⟨v, hv, hread⟩ := Except.getElem?_of_mapM hs hi
  rw [readPiece_of_isInfix hpiece he] at hread
  cases hread
  exact hv

/-- The rule of a piece that holds an interval is well-formed exactly if the piece starts with an
interval that is a word of it; that interval is then the rule, and what follows is the text. In
every other case the rule is malformed: lint reports it at the place of the piece, and a selection
that comes to it fails. -/
theorem rule_of_piece_with_interval {message : List Char} (hsep : separator ∈ message)
    (hruns : Decimal.ShortRuns message) :
    ∃ vs, split message = .ok vs ∧
      ∀ (i : Nat) (piece : List Char), (pieces message)[i]? = some piece →
        (∃ e : Expression, e.text <:+: Text.trim piece) →
        ∃ v rule, vs[i]? = some v ∧ v.rule = some rule ∧
          ((∃ interval, Interval.read rule = .ok interval) ↔
            ∃ e rest, LeadingWord (Text.trim piece) e rest) ∧
          (∀ e rest, LeadingWord (Text.trim piece) e rest →
            rule = e.text ∧ Interval.read rule = .ok e.value ∧ v.text = Text.trimLeft rest) ∧
          ((∀ e rest, ¬ LeadingWord (Text.trim piece) e rest) →
            ∃ cause, Interval.read rule = .error (.malformed cause) ∧
              (∀ locale, ∃ issues, Lint.check message locale = .ok issues ∧
                .invalidInterval i cause ∈ issues) ∧
              ∀ (settings : Settings) (count : Int) (locale : Option String),
                (∀ j < i, ∀ w, vs[j]? = some w → w.Excludes count) →
                settings.choose message count locale = .error (.interval cause.report)) := by
  obtain ⟨vs, hs⟩ := exists_split hruns
  refine ⟨vs, hs, ?_⟩
  rintro i piece hi ⟨e, he⟩
  have hpiece := hruns.of_isInfix (infix_of_mem_pieces (List.mem_of_getElem? hi))
  have htrim := hpiece.of_isInfix (Interval.trim_isInfix piece)
  have hv := variant_of_isInfix hsep hruns hs hi he
  refine ⟨_, _, hv, rfl, Interval.read_firstWord_iff htrim, ?_, ?_⟩
  · intro e rest h
    exact ⟨h.firstWord_eq, h.read_firstWord htrim, h.afterFirstWord_eq⟩
  · intro hnone
    obtain ⟨cause, hcause⟩ := Interval.malformed_firstWord htrim hnone
    have hmalformed : Variant.Malformed cause ⟨Text.afterFirstWord (Text.trim piece),
        some (Text.firstWord (Text.trim piece))⟩ := ⟨_, rfl, hcause⟩
    refine ⟨cause, hcause, ?_, ?_⟩
    · intro locale
      exact Lint.reported_of_malformed hsep hs (fun v hv => readable_of_split hruns hs hv) hv
        hmalformed locale
    · intro settings count locale hbefore
      exact settings.choose_of_malformed hsep hs ⟨hv, hbefore⟩ hmalformed locale

/-- Pieces with an interval at the front, in the middle, with a blank inside, and with a text
behind it that no blank divides from it. -/
def rates : List Char :=
  "[0,0] free|up to [1,2]|[ 3,4] half|[5,9]x full".toList

theorem rule_of_piece_with_interval_rates :
    (separator ∈ rates ∧ Decimal.ShortRuns rates ∧
        (pieces rates)[3]? = some "[5,9]x full".toList ∧
        ∃ e : Expression, e.text <:+: Text.trim "[5,9]x full".toList) ∧
      ∃ cause, Interval.read "[5,9]x".toList = .error (.malformed cause) ∧
        ∃ issues, Lint.check rates "en" = .ok issues ∧ .invalidInterval 3 cause ∈ issues := by
  have hruns : Decimal.ShortRuns rates := Decimal.shortRuns_of_length_le (by decide)
  have hexpr : ∃ e : Expression, e.text <:+: Text.trim "[5,9]x full".toList := by
    refine ⟨(Interval.range .left (some 5) (.finite 9) .right).derivation, [], "x full".toList, ?_⟩
    rw [Interval.text_derivation]
    decide
  have hsep : separator ∈ rates := by decide
  obtain ⟨vs, hs, hpieces⟩ := rule_of_piece_with_interval hsep hruns
  obtain ⟨v, rule, hv, hrule, hiff, -, hother⟩ := hpieces 3 _ rfl hexpr
  have hsplit : split rates = .ok [⟨"free".toList, some "[0,0]".toList⟩,
      ⟨"to [1,2]".toList, some "up".toList⟩, ⟨"3,4] half".toList, some "[".toList⟩,
      ⟨"full".toList, some "[5,9]x".toList⟩] := by
    decide
  cases hsplit.symm.trans hs
  cases hv
  cases hrule
  have hread : ¬ ∃ interval, Interval.read "[5,9]x".toList = .ok interval := by
    rintro ⟨interval, hread⟩
    have hfault : Interval.read "[5,9]x".toList =
        .error (.malformed (.trailing "[5,9]x".toList 5)) := by
      decide
    cases hfault.symm.trans hread
  obtain ⟨cause, hcause, hreport, -⟩ := hother fun e rest h => hread (hiff.2 ⟨e, rest, h⟩)
  exact ⟨⟨hsep, hruns, rfl, hexpr⟩, cause, hcause, hreport "en"⟩

end Template
end PluralMessage
