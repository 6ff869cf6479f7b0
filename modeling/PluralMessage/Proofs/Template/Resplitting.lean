import PluralMessage.Proofs.Interval.Respacing
import PluralMessage.Proofs.Template.Splitting

/-!
Splitting loses nothing, and what it finds is stable. A piece of a template is, blanks at its ends
aside, the rule of its variant, a gap of blanks and the text. Another gap makes no difference, though
the interval for which the piece has a rule may go on behind the gap; so variants that are written
again are found again, and it does not matter whether their rules can be read.
-/
namespace PluralMessage
open PluralMessage.Interval (Blanks Expression)

/-- The text is the variant as it was found: its rule, a gap and its text, with no gap if there is no
text behind it; or its text alone. -/
def Variant.Covers (variant : Variant) (s : List Char) : Prop :=
  match variant.rule with
  | none => s = variant.text
  | some rule =>
      ∃ gap : Blanks, s = rule ++ (gap.chars ++ variant.text) ∧
        (gap.chars = [] ↔ variant.text = [])

/-- What can be said of each variant that is found. -/
structure Variant.Tidy (variant : Variant) : Prop where
  trimmed_text : Text.Trimmed variant.text
  separator_notMem_text : Template.separator ∉ variant.text
  rule_ne_nil : ∀ rule ∈ variant.rule, rule ≠ []
  not_isBlank_rule : ∀ rule ∈ variant.rule, ∀ c ∈ rule, Text.isBlank c = false
  separator_notMem_rule : ∀ rule ∈ variant.rule, Template.separator ∉ rule

/-- A variant as a piece of a template, with a gap of one's choice. -/
def Variant.spaced (gap : Blanks) (variant : Variant) : List Char :=
  match variant.rule with
  | none => variant.text
  | some rule => rule ++ (gap.chars ++ variant.text)

/-- The gap behind the first word. -/
def Interval.Blanks.afterWord (s : List Char) : Blanks :=
  Blanks.leading (s.dropWhile fun c => !Text.isBlank c)

namespace Template

def space : Blanks :=
  Blanks.leading [' ']

theorem firstWord_gap_afterFirstWord (s : List Char) :
    Text.firstWord s ++ ((Blanks.afterWord s).chars ++ Text.afterFirstWord s) = s := by
  rw [Blanks.afterWord, Text.afterFirstWord, Blanks.leading_append_trimLeft]
  exact List.takeWhile_append_dropWhile

theorem afterWord_eq_nil_iff {s : List Char} (h : Text.Trimmed s) :
    (Blanks.afterWord s).chars = [] ↔ Text.afterFirstWord s = [] := by
  constructor
  · intro hgap
    -- What follows the word starts neither with a blank nor with another character.
    have hstart : Text.Clear Text.isBlank (Text.afterFirstWord s) := Text.clear_dropWhile _ _
    have hend := Text.clear_dropWhile (fun c => !Text.isBlank c) s
    rw [← Blanks.leading_append_trimLeft (s.dropWhile _), ← Blanks.afterWord, hgap,
      List.nil_append, ← Text.afterFirstWord] at hend
    cases htext : Text.afterFirstWord s with
    | nil => rfl
    | cons c rest =>
        rw [htext, Text.clear_cons] at hstart hend
        simp [hstart] at hend
  · intro htext
    have hend := h.2
    rw [← firstWord_gap_afterFirstWord s, htext, List.append_nil, List.reverse_append] at hend
    have hnil := Text.eq_nil_of_clear_append hend fun c hc =>
      (Blanks.afterWord s).isBlank c (List.mem_reverse.1 hc)
    exact List.reverse_eq_nil_iff.1 hnil

section
variable {piece : List Char} {v : Variant}

theorem covers_of_readPiece (h : readPiece piece = .ok v) : v.Covers (Text.trim piece) := by
  rcases cases_of_readPiece h with rfl | ⟨rfl, -⟩
  · rfl
  · exact ⟨Blanks.afterWord (Text.trim piece), (firstWord_gap_afterFirstWord _).symm,
      afterWord_eq_nil_iff (Text.trimmed_trim piece)⟩

theorem tidy_of_readPiece (hsep : separator ∉ piece) (h : readPiece piece = .ok v) : v.Tidy := by
  have htrimmed := Text.trimmed_trim piece
  have hpart : ∀ part, part <:+: Text.trim piece → separator ∉ part :=
    fun part hpart hmem => hsep ((hpart.trans (Interval.trim_isInfix piece)).subset hmem)
  rcases cases_of_readPiece h with rfl | ⟨rfl, e, he⟩
  · exact ⟨htrimmed, hpart _ List.infix_rfl, by simp, by simp, by simp⟩
  · have hne : Text.trim piece ≠ [] := by
      intro hnil
      rw [hnil, List.infix_nil] at he
      exact e.text_ne_nil he
    refine ⟨Text.trimmed_afterFirstWord htrimmed,
      hpart _ (Text.afterFirstWord_isSuffix _).isInfix, ?_, ?_, ?_⟩
    · rintro _ ⟨⟩
      exact Text.firstWord_ne_nil htrimmed.1 hne
    · rintro _ ⟨⟩ c hc
      exact Text.not_isBlank_of_mem_firstWord hc
    · rintro _ ⟨⟩
      exact hpart _ (List.takeWhile_prefix _).isInfix

theorem readPiece_congr {p q : List Char} (h : Text.trim p = Text.trim q) :
    readPiece p = readPiece q := by
  simp only [readPiece, h]

theorem trim_word_append {word : List Char} (hw : ∀ c ∈ word, Text.isBlank c = false)
    (gap : Blanks) : Text.trim (word ++ gap.chars) = word :=
  Text.trim_padded (List.forall_mem_nil _) gap.isBlank (Text.trimmed_of_no_blank hw)

/-- A word and a text behind it, between them an interval somewhere. -/
theorem readPiece_word_gap {word text : List Char} {gap : Blanks}
    (hword : ∀ c ∈ word, Text.isBlank c = false) (hne : word ≠ []) (hgap : gap.chars ≠ [])
    (htext : Text.Trimmed text) (htne : text ≠ [])
    (hruns : Decimal.ShortRuns (word ++ (gap.chars ++ text))) {e : Expression}
    (he : e.text <:+: word ++ (gap.chars ++ text)) :
    readPiece (word ++ (gap.chars ++ text)) = .ok ⟨text, some word⟩ := by
  have hstart := (Text.trimmed_of_no_blank hword).1
  have htrim := Text.trim_of_trimmed (Text.trimmed_append hstart hne htext.2 htne gap.chars)
  have hends := gap.clear_append hgap text
  rw [readPiece_of_isInfix hruns (by rwa [htrim]), htrim, Text.firstWord_append hword hends,
    Text.afterFirstWord_append hword hends, gap.trimLeft_append htext.1]

/-- A variant is found again with any gap. -/
theorem readPiece_spaced (hruns : Decimal.ShortRuns piece) (h : readPiece piece = .ok v)
    {gap : Blanks} (hgap : gap.chars ≠ []) : readPiece (v.spaced gap) = .ok v := by
  have htrimmed := Text.trimmed_trim piece
  rcases cases_of_readPiece h with rfl | ⟨rfl, e, he⟩
  · exact (readPiece_congr (Text.trim_of_trimmed htrimmed)).trans h
  · have hs := firstWord_gap_afterFirstWord (Text.trim piece)
    have hgap' := afterWord_eq_nil_iff htrimmed
    have hword : ∀ c ∈ Text.firstWord (Text.trim piece), Text.isBlank c = false :=
      fun _ => Text.not_isBlank_of_mem_firstWord
    by_cases htext : Text.afterFirstWord (Text.trim piece) = []
    · -- The piece is its rule, and a gap behind it is cut off.
      rw [htext, hgap'.2 htext, List.append_nil, List.append_nil] at hs
      refine (readPiece_congr ?_).trans h
      simp only [Variant.spaced, htext, List.append_nil]
      rw [trim_word_append hword, hs]
    · have hne : Text.firstWord (Text.trim piece) ≠ [] := by
        apply Text.firstWord_ne_nil htrimmed.1
        intro hnil
        exact htext (by rw [hnil]; rfl)
      have hpiece := hruns.of_isInfix (Interval.trim_isInfix piece)
      have hfirst := hpiece.of_isInfix (List.takeWhile_prefix fun c => !Text.isBlank c).isInfix
      have hafter := hpiece.of_isSuffix (Text.afterFirstWord_isSuffix _)
      rw [← hs] at he
      obtain ⟨f, hf⟩ :=
        Expression.exists_infix_of_gap (Blanks.isBlank _) (mt hgap'.1 htext) gap he
      exact readPiece_word_gap hword hne hgap (Text.trimmed_afterFirstWord htrimmed) htext
        (hfirst.append_gap hafter hgap) hf

theorem readPiece_print (hruns : Decimal.ShortRuns piece) (hv : v.Tidy)
    (h : readPiece piece = .ok v) : readPiece v.print = .ok v := by
  have hspaced : readPiece (v.spaced space) = .ok v := readPiece_spaced hruns h (by decide)
  refine (readPiece_congr ?_).trans hspaced
  obtain ⟨text, rule⟩ := v
  cases rule with
  | none => rfl
  | some rule =>
      have hrule := hv.not_isBlank_rule rule rfl
      cases text with
      | nil =>
          have hword := Text.trim_of_trimmed (Text.trimmed_of_no_blank hrule)
          exact hword.trans (trim_word_append hrule space).symm
      | cons c text => rfl

end

theorem separator_notMem_spaced {v : Variant} (hv : v.Tidy) (gap : Blanks) :
    separator ∉ v.spaced gap := by
  obtain ⟨text, rule⟩ := v
  cases rule with
  | none => exact hv.separator_notMem_text
  | some rule =>
      rw [Variant.spaced, List.mem_append, List.mem_append]
      rintro (hrule | hgap | htext)
      · exact hv.separator_notMem_rule rule rfl hrule
      · exact Draft.separator_notMem_blanks gap hgap
      · exact hv.separator_notMem_text htext

theorem separator_notMem_print {v : Variant} (hv : v.Tidy) : separator ∉ v.print := by
  obtain ⟨text, rule⟩ := v
  cases rule with
  | none => exact hv.separator_notMem_text
  | some rule =>
      cases text with
      | nil => exact hv.separator_notMem_rule rule rfl
      | cons c text => exact separator_notMem_spaced hv space

/-- Variants that are found in the pieces that they are written as are found in the template. -/
theorem split_join_written {vs : List Variant} {write : Variant → List Char}
    (h2 : 2 ≤ vs.length)
    (h : ∀ v ∈ vs, separator ∉ write v ∧ readPiece (write v) = .ok v) :
    split (join (vs.map write)) = .ok vs := by
  have hread : ∀ v ∈ vs, readPiece (write v) = .ok (id v) := fun v hv => (h v hv).2
  have hsplit := split_join_map h2 (fun v hv => (h v hv).1) hread
  rwa [List.map_id] at hsplit

/-- A template with bars has one variant more than bars. Each trimmed piece is its variant, with the
rule, the gap and the text in this order; no variant has a bar, a rule is a word, and no text has
blanks at its ends. A template that is written from the variants, with the gaps of one's choice, has
the same variants. -/
theorem split_lossless_stable {message : List Char} (hsep : separator ∈ message)
    (hruns : Decimal.ShortRuns message) :
    ∃ vs, split message = .ok vs ∧ vs.length = message.count separator + 1 ∧
      List.Forall₂ (fun piece v => Variant.Covers v (Text.trim piece)) (pieces message) vs ∧
      (∀ v ∈ vs, v.Tidy) ∧ split (render vs) = .ok vs ∧
      ∀ gap : Blanks, gap.chars ≠ [] → split (join (vs.map (Variant.spaced gap))) = .ok vs := by
  obtain ⟨vs, hs⟩ := exists_split hruns
  have hread := split_of_mem hsep ▸ hs
  rw [Except.mapM_eq_ok_iff] at hread
  have hlength : vs.length = message.count separator + 1 := by
    rw [← hread.length_eq, length_pieces]
  have h2 : 2 ≤ vs.length := by
    have hcount := List.count_pos_iff.2 hsep
    omega
  have horigin : ∀ v ∈ vs, ∃ piece,
      Decimal.ShortRuns piece ∧ readPiece piece = .ok v ∧ v.Tidy := by
    intro v hv
    obtain ⟨piece, hpiece, h⟩ := exists_piece_of_split hsep hs hv
    have hno := separator_notMem_of_mem_pieces hpiece
    exact ⟨piece, hruns.of_isInfix (infix_of_mem_pieces hpiece), h, tidy_of_readPiece hno h⟩
  refine ⟨vs, hs, hlength, hread.imp fun _ _ => covers_of_readPiece, ?_, ?_, ?_⟩
  · intro v hv
    obtain ⟨piece, -, -, htidy⟩ := horigin v hv
    exact htidy
  · apply split_join_written h2
    intro v hv
    obtain ⟨piece, hpiece, h, htidy⟩ := horigin v hv
    exact ⟨separator_notMem_print htidy, readPiece_print hpiece htidy h⟩
  · intro gap hgap
    apply split_join_written h2
    intro v hv
    obtain ⟨piece, hpiece, h, htidy⟩ := horigin v hv
    exact ⟨separator_notMem_spaced htidy gap, readPiece_spaced hpiece h hgap⟩

/-- The interval of the first piece goes on behind the gap, so its rule cannot be read; nor can that
of the third piece, in which the interval comes last. -/
def baskets : List Char :=
  " [1,\t 2] left|a lot| up  to [3,4]|]5,6]".toList

theorem split_lossless_stable_baskets :
    (separator ∈ baskets ∧ Decimal.ShortRuns baskets) ∧
      split baskets = split "[1, 2] left|a lot|up to [3,4]|]5,6]".toList ∧
      split baskets = .ok [⟨"2] left".toList, some "[1,".toList⟩, ⟨"a lot".toList, none⟩,
        ⟨"to [3,4]".toList, some "up".toList⟩, ⟨[], some "]5,6]".toList⟩] := by
  have hsep : separator ∈ baskets := by decide
  have hruns : Decimal.ShortRuns baskets := Decimal.shortRuns_of_length_le (by decide)
  have hsplit : split baskets = .ok [⟨"2] left".toList, some "[1,".toList⟩,
      ⟨"a lot".toList, none⟩, ⟨"to [3,4]".toList, some "up".toList⟩,
      ⟨[], some "]5,6]".toList⟩] := by
    decide
  obtain ⟨vs, hs, -, -, -, hrender, -⟩ := split_lossless_stable hsep hruns
  cases hsplit.symm.trans hs
  exact ⟨⟨hsep, hruns⟩, hsplit.trans hrender.symm, hsplit⟩

end Template
end PluralMessage
