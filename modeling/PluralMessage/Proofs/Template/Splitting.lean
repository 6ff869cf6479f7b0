import PluralMessage.Proofs.Interval.Printing
import PluralMessage.Proofs.Template.Pieces
import PluralMessage.Proofs.Text.Trim

/-!
Splitting undoes rendering: variants that are written with or without a rule, with any blanks where
blanks may stand, are found again in the template that they form.
-/
namespace PluralMessage.Template
open PluralMessage.Interval (Blanks Expression)

/-- A variant as it is written: with a rule before the text, or as the text alone. -/
inductive Draft
  | ruled (rule : Interval) (gap : Blanks) (text : List Char)
  | plain (text : List Char)

namespace Draft

/-- The gap separates the rule from a text only. -/
def body : Draft → List Char
  | ruled rule gap text => rule.print ++ if text.isEmpty then [] else gap.chars ++ text
  | plain text => text

def variant : Draft → Variant
  | ruled rule _ text => ⟨text, some rule.print⟩
  | plain text => ⟨text, none⟩

/-- What a variant must be to be written in a template: a text may neither hold a separator nor
have blanks at its ends, and what is written without a rule may not seem to have one. -/
def WellFormed : Draft → Prop
  | ruled rule gap text =>
      rule.Short ∧ gap.chars ≠ [] ∧ separator ∉ text ∧ Text.Trimmed text
  | plain text =>
      separator ∉ text ∧ Text.Trimmed text ∧ Decimal.ShortRuns text ∧
        ∀ e : Expression, ¬ e.text <:+: text

end Draft

/-- A written variant with blanks around it. -/
structure Padded where
  before : Blanks
  draft : Draft
  after : Blanks

def Padded.piece (padded : Padded) : List Char :=
  padded.before.chars ++ padded.draft.body ++ padded.after.chars

namespace Draft

theorem separator_notMem_blanks (b : Blanks) : separator ∉ b.chars := by
  intro h
  exact absurd (b.isBlank _ h) (by decide)

theorem separator_notMem_print (i : Interval) : separator ∉ i.print := by
  intro h
  exact absurd (Interval.isPrinted_of_mem_print h) (by decide)

theorem separator_notMem_body {d : Draft} (h : d.WellFormed) : separator ∉ d.body := by
  cases d with
  | ruled rule gap text =>
      obtain ⟨-, -, htext, -⟩ := h
      rw [body, List.mem_append]
      rintro (hp | ht)
      · exact separator_notMem_print rule hp
      · split at ht
        · cases ht
        · exact (List.mem_append.1 ht).elim (separator_notMem_blanks gap) htext
  | plain text => exact h.1

/-- Behind a rule stands nothing, or a blank. -/
theorem clear_afterRule {gap : Blanks} (hgap : gap.chars ≠ []) (text : List Char) :
    Text.Clear (fun c => !Text.isBlank c) (if text.isEmpty then [] else gap.chars ++ text) := by
  split
  · exact Text.clear_nil _
  · exact gap.clear_append hgap text

theorem trimmed_body {d : Draft} (h : d.WellFormed) : Text.Trimmed d.body := by
  cases d with
  | ruled rule gap text =>
      obtain ⟨-, -, -, htrim⟩ := h
      have hprint : Text.Trimmed rule.print :=
        Text.trimmed_of_no_blank fun c hc => Interval.not_isBlank_of_mem_print hc
      rw [body]
      split
      · rwa [List.append_nil]
      · rename_i hne
        exact Text.trimmed_append hprint.1 rule.print_ne_nil htrim.2 (by simpa using hne) gap.chars
  | plain text => exact h.2.1

theorem readPiece_padded {d : Draft} (h : d.WellFormed) (before after : Blanks) :
    readPiece (before.chars ++ d.body ++ after.chars) = .ok d.variant := by
  have htrim := Text.trim_padded before.isBlank after.isBlank (trimmed_body h)
  simp only [readPiece, htrim]
  cases d with
  | ruled rule gap text =>
      obtain ⟨hshort, hgap, -, hclear, -⟩ := h
      -- The rule is the first word; the text starts with no blank, so only the gap is cut off.
      have hword : ∀ c ∈ rule.print, Text.isBlank c = false :=
        fun c hc => Interval.not_isBlank_of_mem_print hc
      have hafter := clear_afterRule hgap text
      have htext : Text.trimLeft (if text.isEmpty then [] else gap.chars ++ text) = text := by
        split
        · rename_i hempty
          rw [List.isEmpty_iff.1 hempty]
          rfl
        · exact gap.trimLeft_append hclear
      simp only [body, variant, Interval.search_print hshort, Text.firstWord_append hword hafter,
        Text.afterFirstWord_append hword hafter, htext]
  | plain text =>
      obtain ⟨-, -, hruns, hnone⟩ := h
      simp only [body, variant, Interval.search_eq_none hruns hnone]

end Draft

/-- Splitting a template gives back the variants that it was written from, in order. -/
theorem split_join_padded {drafts : List Padded} (h2 : 2 ≤ drafts.length)
    (h : ∀ padded ∈ drafts, padded.draft.WellFormed) :
    split (join (drafts.map Padded.piece)) =
      .ok (drafts.map fun padded => padded.draft.variant) := by
  apply split_join
  · rwa [List.length_map]
  · intro p hp
    obtain ⟨padded, hmem, rfl⟩ := List.mem_map.1 hp
    rw [Padded.piece, List.mem_append, List.mem_append]
    rintro ((hb | hb) | hb)
    · exact Draft.separator_notMem_blanks _ hb
    · exact Draft.separator_notMem_body (h padded hmem) hb
    · exact Draft.separator_notMem_blanks _ hb
  · rw [List.forall₂_map_left_iff, List.forall₂_map_right_iff, List.forall₂_same]
    intro padded hmem
    exact Draft.readPiece_padded (h padded hmem) padded.before padded.after

/-- A template of three variants; the text of the first holds an interval of its own. -/
def fruit : List Padded :=
  let space : Blanks := ⟨[' '], List.forall_mem_singleton.2 rfl⟩
  [⟨space, .ruled (.set 0 [-3]) space "no [1,2] or \x7bx".toList, space⟩,
    ⟨space, .plain "an apple".toList, Interval.noBlanks⟩,
    ⟨Interval.noBlanks, .ruled (.range .right (some 1) .posInf .left) space [], space⟩]

theorem wellFormed_fruit : ∀ padded ∈ fruit, padded.draft.WellFormed := by
  intro padded h
  simp only [fruit, List.mem_cons, List.not_mem_nil, or_false] at h
  rcases h with rfl | rfl | rfl
  · refine ⟨?_, by decide, by decide, by decide⟩
    show ∀ n ∈ [0, -3], Decimal.Short n
    decide
  · exact ⟨by decide, by decide, Decimal.shortRuns_of_length_le (by decide),
      Interval.not_infix_of_no_opening (by decide)⟩
  · exact ⟨⟨by rintro n ⟨⟩; decide, by rintro n ⟨⟩⟩, by decide, by decide, by decide⟩

theorem split_join_padded_fruit :
    (2 ≤ fruit.length ∧ ∀ padded ∈ fruit, padded.draft.WellFormed) ∧
      split " \x7b0,-3\x7d no [1,2] or \x7bx | an apple|]1,+Inf[ ".toList =
        .ok [⟨"no [1,2] or \x7bx".toList, some "\x7b0,-3\x7d".toList⟩, ⟨"an apple".toList, none⟩,
          ⟨[], some "]1,+Inf[".toList⟩] :=
  ⟨⟨by decide, wellFormed_fruit⟩, split_join_padded (by decide) wellFormed_fruit⟩

end PluralMessage.Template
