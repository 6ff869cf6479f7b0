import PluralMessage.Proofs.Interval.Leftmost
import PluralMessage.Proofs.Lint

/-!
Lint on the number of variants. The plural forms of a locale reach the variants below the number of
forms, each of them for some count, and a variant behind them is reached by its rule only. So a
report of missing forms or unused variants tells what selection does, and on a template without
rules there is no other way for a selection to fail.
-/
namespace PluralMessage

namespace Settings
variable {vs : List Variant} {count : Int} {locale : String}

/-- A count without a variant exists if and only if the variants are fewer than the forms. -/
theorem exists_choosePlural_error_iff :
    (∃ count e, choosePlural vs count locale = .error e) ↔ vs.length < Plural.forms locale := by
  constructor
  · rintro ⟨count, e, h⟩
    exact Nat.lt_of_le_of_lt (choosePlural_eq_error_iff.1 h).1 (Plural.form_lt_forms count locale)
  · intro h
    obtain ⟨count, -, -, hform⟩ := Plural.exists_form_eq h
    exact ⟨count, _, choosePlural_eq_error_iff.2 ⟨Nat.le_of_eq hform.symm, rfl⟩⟩

theorem forall_choosePlural_ok_iff :
    (∀ count, ∃ choice, choosePlural vs count locale = .ok choice) ↔
      Plural.forms locale ≤ vs.length := by
  rw [← Nat.not_lt, ← exists_choosePlural_error_iff]
  constructor
  · rintro h ⟨count, e, he⟩
    obtain ⟨choice, hchoice⟩ := h count
    cases he.symm.trans hchoice
  · intro h count
    cases hchoose : choosePlural vs count locale with
    | ok choice => exact ⟨choice, rfl⟩
    | error e => exact absurd ⟨count, e, hchoose⟩ h

/-- The variants that plural forms reach are those below the number of forms. -/
theorem exists_choosePlural_index_iff {i : Nat} (h : i < vs.length) :
    (∃ count choice, choosePlural vs count locale = .ok choice ∧ choice.index = i) ↔
      i < Plural.forms locale := by
  constructor
  · rintro ⟨count, choice, hchoose, rfl⟩
    obtain ⟨v, -, rfl⟩ := choosePlural_eq_ok_iff.1 hchoose
    exact Plural.form_lt_forms count locale
  · intro hi
    obtain ⟨count, -, -, rfl⟩ := Plural.exists_form_eq hi
    exact ⟨count, _, choosePlural_eq_ok_iff.2 ⟨_, List.getElem?_eq_getElem h, rfl⟩, rfl⟩

theorem forall_choosePlural_index_iff :
    (∀ i < vs.length, ∃ count choice, choosePlural vs count locale = .ok choice ∧
      choice.index = i) ↔ vs.length ≤ Plural.forms locale := by
  constructor
  · intro h
    by_contra hlt
    rw [Nat.not_le] at hlt
    exact Nat.lt_irrefl _ ((exists_choosePlural_index_iff hlt).1 (h _ hlt))
  · intro h i hi
    exact (exists_choosePlural_index_iff hi).2 (Nat.lt_of_lt_of_le hi h)

end Settings

namespace Lint
open PluralMessage.Interval (Expression)
open PluralMessage.Template (pieces separator)

theorem severity_eq_error_iff (issue : Issue) :
    issue.severity = .error ↔
      issue.code = "invalid_interval" ∨ issue.code = "missing_forms" := by
  cases issue <;> simp [Issue.severity, Issue.code]

section
variable {k : Nat} {v : Variant} {vs : List Variant} {own : List Issue} {locale : String}

theorem code_of_variantIssues (h : variantIssues k v = .ok own) :
    ∀ issue ∈ own, issue.code = "invalid_interval" ∨ issue.code = "empty_variant" := by
  obtain ⟨issues, hissues, h⟩ := Except.bind_eq_ok.1 h
  cases h
  have hrule : ∀ issue ∈ issues, issue.code = "invalid_interval" := by
    simp only [ruleIssues] at hissues
    split at hissues
    · cases hissues
      simp
    · split at hissues
      · cases hissues
        simp
      · cases hissues
        simp [Issue.code]
      · cases hissues
  intro issue hissue
  rcases List.mem_append.1 hissue with hissue | hissue
  · exact .inl (hrule issue hissue)
  · split at hissue
    · rw [List.mem_singleton.1 hissue]
      exact .inr rfl
    · cases hissue

/-- The issues of variants are on their rules and texts. -/
theorem code_of_variantsIssues (h : variantsIssues k vs = .ok own) :
    ∀ issue ∈ own, issue.code = "invalid_interval" ∨ issue.code = "empty_variant" := by
  induction vs generalizing k own with
  | nil =>
      cases h
      simp
  | cons v vs ih =>
      obtain ⟨first, hfirst, h⟩ := Except.bind_eq_ok.1 h
      obtain ⟨more, hmore, h⟩ := Except.bind_eq_ok.1 h
      cases h
      intro issue hissue
      rcases List.mem_append.1 hissue with hissue | hissue
      · exact code_of_variantIssues hfirst issue hissue
      · exact ih hmore issue hissue

theorem code_of_localeIssues {issue : Issue} (h : issue ∈ localeIssues locale) :
    issue.code = "unknown_locale" := by
  unfold localeIssues at h
  split at h
  · cases h
  · rw [List.mem_singleton.1 h]
    rfl

/-- Missing forms and unused variants are reported by counting the variants, and nowhere else. -/
theorem exists_report_iff (hown : variantsIssues k vs = .ok own) {code : String}
    (hcode : code = "missing_forms" ∨ code = "unused_variants") :
    (∃ issue ∈ report vs own locale, issue.code = code) ↔
      ∃ issue ∈ countIssues vs locale, issue.code = code := by
  constructor
  · rintro ⟨issue, hissue, rfl⟩
    rcases mem_report.1 hissue with hissue | hissue | hissue
    · rw [code_of_localeIssues hissue] at hcode
      exact absurd hcode (by decide)
    · rcases code_of_variantsIssues hown issue hissue with h | h
      · rw [h] at hcode
        exact absurd hcode (by decide)
      · rw [h] at hcode
        exact absurd hcode (by decide)
    · exact ⟨issue, hissue, rfl⟩
  · rintro ⟨issue, hissue, h⟩
    exact ⟨issue, mem_report.2 (.inr (.inr hissue)), h⟩

theorem missing_reported_iff (hown : variantsIssues k vs = .ok own) :
    (∃ issue ∈ report vs own locale, issue.code = "missing_forms") ↔
      vs.length < Plural.forms locale := by
  rw [exists_report_iff hown (.inl rfl)]
  simp only [countIssues]
  split
  · rename_i h
    simp [Issue.code, h]
  · rename_i h
    split <;> simp [Issue.code, h]

theorem no_missing_iff (hown : variantsIssues k vs = .ok own) :
    (∀ issue ∈ report vs own locale, issue.code ≠ "missing_forms") ↔
      Plural.forms locale ≤ vs.length := by
  rw [← Nat.not_lt, ← missing_reported_iff hown]
  simp only [not_exists, not_and, ne_eq]

/-- Without malformed rules, missing forms are the only error. -/
theorem error_reported_iff (hown : variantsIssues k vs = .ok own)
    (hall : ∀ v ∈ vs, ∀ cause, ¬ v.Malformed cause) :
    (∃ issue ∈ report vs own locale, issue.severity = .error) ↔
      vs.length < Plural.forms locale := by
  rw [← missing_reported_iff hown]
  constructor
  · rintro ⟨issue, hissue, hseverity⟩
    rcases (severity_eq_error_iff issue).1 hseverity with hcode | hcode
    · have hnone := find?_report own vs locale
      rw [find?_eq_none_of_variantsIssues hown hall, List.find?_eq_none] at hnone
      exact absurd (by simp [isInvalid, hcode]) (hnone issue hissue)
    · exact ⟨issue, hissue, hcode⟩
  · rintro ⟨issue, hissue, hcode⟩
    exact ⟨issue, hissue, (severity_eq_error_iff issue).2 (.inr hcode)⟩

theorem any_drop_iff {n : Nat} :
    ((vs.drop n).any fun v => v.rule.isNone) = true ↔
      ∃ i v, n ≤ i ∧ vs[i]? = some v ∧ v.rule = none := by
  rw [List.any_eq_true]
  constructor
  · rintro ⟨v, hv, hr⟩
    obtain ⟨j, hj⟩ := List.mem_iff_getElem?.1 hv
    rw [List.getElem?_drop] at hj
    exact ⟨n + j, v, Nat.le_add_right n j, hj, Option.isNone_iff_eq_none.1 hr⟩
  · rintro ⟨i, v, hi, hv, hr⟩
    refine ⟨v, List.mem_iff_getElem?.2 ⟨i - n, ?_⟩, Option.isNone_iff_eq_none.2 hr⟩
    rw [List.getElem?_drop, Nat.add_sub_cancel' hi]
    exact hv

theorem unused_reported_iff (hown : variantsIssues k vs = .ok own) :
    (∃ issue ∈ report vs own locale, issue.code = "unused_variants") ↔
      ∃ i v, Plural.forms locale ≤ i ∧ vs[i]? = some v ∧ v.rule = none := by
  rw [exists_report_iff hown (.inr rfl), ← any_drop_iff]
  simp only [countIssues]
  split
  · rename_i h
    simp [Issue.code, List.drop_eq_nil_of_le (Nat.le_of_lt h)]
  · split
    · rename_i h
      simp only [h, List.mem_singleton, exists_eq_left, Issue.code]
    · rename_i h
      simp [h]

/-- Where no variant has a rule, every variant behind the forms is unused. -/
theorem no_unused_iff (hown : variantsIssues k vs = .ok own) (hrule : ∀ v ∈ vs, v.rule = none) :
    (∀ issue ∈ report vs own locale, issue.code ≠ "unused_variants") ↔
      vs.length ≤ Plural.forms locale := by
  have hunused : (∃ i v, Plural.forms locale ≤ i ∧ vs[i]? = some v ∧ v.rule = none) ↔
      Plural.forms locale < vs.length := by
    constructor
    · rintro ⟨i, v, hi, hv, -⟩
      exact Nat.lt_of_le_of_lt hi (List.getElem?_eq_some_iff.1 hv).1
    · intro h
      exact ⟨_, _, Nat.le_refl _, List.getElem?_eq_getElem h, hrule _ (List.getElem_mem h)⟩
  rw [← Nat.not_lt, ← hunused, ← unused_reported_iff hown]
  simp only [not_exists, not_and, ne_eq]

end

/-! All templates. -/

section
variable {message : List Char} {vs : List Variant} {locale : String}

theorem exists_split_check (hsep : separator ∈ message) (hruns : Decimal.ShortRuns message)
    (locale : String) :
    ∃ vs own, Template.split message = .ok vs ∧ (∀ v ∈ vs, v.Readable) ∧
      variantsIssues 0 vs = .ok own ∧ check message locale = .ok (report vs own locale) := by
  obtain ⟨vs, hs⟩ := Template.exists_split hruns
  have hread : ∀ v ∈ vs, v.Readable := fun v hv => Template.readable_of_split hruns hs hv
  obtain ⟨own, hown, hcheck⟩ := exists_check hsep hs hread locale
  exact ⟨vs, own, hs, hread, hown, hcheck⟩

/-- A variant behind the forms of the locale is chosen by its rule. -/
theorem explicit_of_forms_le {settings : Settings} (hl : locale ≠ "") (hsep : separator ∈ message)
    (hs : Template.split message = .ok vs) (hread : ∀ v ∈ vs, v.Readable) {count : Int}
    {choice : Choice} (hchoose : settings.choose message count (some locale) = .ok choice)
    (h : Plural.forms locale ≤ choice.index) :
    ∃ v rule, vs[choice.index]? = some v ∧ v.rule = some rule ∧
      choice.source = .explicit rule := by
  have houtcome := settings.outcome_choose hsep hs hread count (some locale)
  rw [settings.localeFor_given hl, hchoose] at houtcome
  cases houtcome with
  | explicit hi _ hr => exact ⟨_, _, hi.1, hr, rfl⟩
  | plural _ _ => exact absurd (Plural.form_lt_forms count locale) (Nat.not_lt.2 h)

/-- Unused variants are reported if no form is missing and a variant behind the forms of the locale
has no rule. Such a variant is never chosen: what is chosen behind the forms has a rule. -/
theorem unused_variants_never_chosen (settings : Settings) (hl : locale ≠ "")
    (hsep : separator ∈ message) (hruns : Decimal.ShortRuns message) :
    ∃ vs issues, Template.split message = .ok vs ∧ check message locale = .ok issues ∧
      ((∃ issue ∈ issues, issue.code = "unused_variants") ↔
        (∀ issue ∈ issues, issue.code ≠ "missing_forms") ∧
          ∃ i v, Plural.forms locale ≤ i ∧ vs[i]? = some v ∧ v.rule = none) ∧
      (∀ i v, Plural.forms locale ≤ i → vs[i]? = some v → v.rule = none →
        ∀ count choice, settings.choose message count (some locale) = .ok choice →
          choice.index ≠ i) ∧
      ∀ count choice, settings.choose message count (some locale) = .ok choice →
        Plural.forms locale ≤ choice.index → ∃ rule, choice.source = .explicit rule := by
  obtain ⟨vs, own, hs, hread, hown, hcheck⟩ := exists_split_check hsep hruns locale
  refine ⟨vs, _, hs, hcheck, ?_, ?_, ?_⟩
  · rw [unused_reported_iff hown]
    constructor
    · rintro ⟨i, v, hi, hv, hr⟩
      have hlen : i < vs.length := (List.getElem?_eq_some_iff.1 hv).1
      exact ⟨(no_missing_iff hown).2 (by omega), i, v, hi, hv, hr⟩
    · exact fun h => h.2
  · rintro i v hi hv hr count choice hchoose rfl
    obtain ⟨w, rule, hw, hrule, -⟩ := explicit_of_forms_le hl hsep hs hread hchoose hi
    cases hv.symm.trans hw
    rw [hr] at hrule
    cases hrule
  · intro count choice hchoose hi
    obtain ⟨v, rule, -, -, hsource⟩ := explicit_of_forms_le hl hsep hs hread hchoose hi
    exact ⟨rule, hsource⟩

end

/-- Of five variants for two forms, the last has no rule. -/
def steps : List Char :=
  "[0,0] none|one|[2,3] few|[4,9] some|many".toList

theorem unused_variants_never_chosen_steps :
    ("en" ≠ "" ∧ separator ∈ steps ∧ Decimal.ShortRuns steps) ∧
      ∃ issues, check steps "en" = .ok issues ∧
        (∃ issue ∈ issues, issue.code = "unused_variants") ∧
        ∀ count choice, Settings.initial.choose steps count (some "en") = .ok choice →
          choice.index ≠ 4 := by
  have hsep : separator ∈ steps := by decide
  have hruns : Decimal.ShortRuns steps := Decimal.shortRuns_of_length_le (by decide)
  obtain ⟨vs, issues, hs, hcheck, hreport, hnever, -⟩ :=
    unused_variants_never_chosen Settings.initial (by decide : "en" ≠ "") hsep hruns
  have hsplit : Template.split steps = .ok [⟨"none".toList, some "[0,0]".toList⟩,
      ⟨"one".toList, none⟩, ⟨"few".toList, some "[2,3]".toList⟩,
      ⟨"some".toList, some "[4,9]".toList⟩, ⟨"many".toList, none⟩] := by
    decide
  have hissues : check steps "en" = .ok [.unusedVariants "en" 2] := by decide
  cases hsplit.symm.trans hs
  cases hissues.symm.trans hcheck
  exact ⟨⟨by decide, hsep, hruns⟩, _, hcheck, ⟨_, List.mem_singleton_self _, rfl⟩,
    hnever 4 _ (by decide) rfl rfl⟩

/-! Templates without rules. -/

section
variable {message : List Char} {vs : List Variant} {locale : String}

/-- Without an interval in the pieces there are no rules. -/
theorem rule_eq_none (hsep : separator ∈ message)
    (hfree : ∀ piece ∈ pieces message, ∀ e : Expression, ¬ e.text <:+: piece)
    (hs : Template.split message = .ok vs) : ∀ v ∈ vs, v.rule = none := by
  intro v hv
  obtain ⟨piece, hpiece, hread⟩ := Template.exists_piece_of_split hsep hs hv
  rcases Template.cases_of_readPiece hread with rfl | ⟨-, e, he⟩
  · rfl
  · exact absurd (he.trans (Interval.trim_isInfix piece)) (hfree piece hpiece e)

/-- On a template without rules, lint reports an error if and only if some count has no choice, and
neither missing forms nor unused variants if and only if every count has a choice and every variant
is the choice for some count. -/
theorem check_exact_without_rules (settings : Settings) (hl : locale ≠ "")
    (hsep : separator ∈ message) (hruns : Decimal.ShortRuns message)
    (hfree : ∀ piece ∈ pieces message, ∀ e : Expression, ¬ e.text <:+: piece) :
    ∃ vs issues, Template.split message = .ok vs ∧ check message locale = .ok issues ∧
      ((∃ issue ∈ issues, issue.severity = .error) ↔
        ∃ count e, settings.choose message count (some locale) = .error e) ∧
      ((∀ issue ∈ issues, issue.code ≠ "missing_forms" ∧ issue.code ≠ "unused_variants") ↔
        (∀ count, ∃ choice, settings.choose message count (some locale) = .ok choice) ∧
          ∀ i < vs.length, ∃ count choice,
            settings.choose message count (some locale) = .ok choice ∧ choice.index = i) := by
  obtain ⟨vs, own, hs, -, hown, hcheck⟩ := exists_split_check hsep hruns locale
  have hrule := rule_eq_none hsep hfree hs
  have hexcludes : ∀ count, ∀ v ∈ vs, v.Excludes count := by
    intro count v hv rule hr
    rw [hrule v hv] at hr
    cases hr
  have hchoose : ∀ count, settings.choose message count (some locale) =
      Settings.choosePlural vs count locale := by
    intro count
    rw [settings.choose_of_excludes hsep hs (hexcludes count), settings.localeFor_given hl]
  simp only [hchoose]
  refine ⟨vs, _, hs, hcheck, ?_, ?_⟩
  · have hwell : ∀ v ∈ vs, ∀ cause, ¬ v.Malformed cause :=
      fun v hv => (hexcludes 0 v hv).not_malformed
    rw [error_reported_iff hown hwell, Settings.exists_choosePlural_error_iff]
  · rw [Settings.forall_choosePlural_ok_iff, Settings.forall_choosePlural_index_iff,
      ← no_missing_iff hown, ← no_unused_iff hown hrule]
    simp only [imp_and, forall_and]

end

/-- Two variants for three forms, one of them with a bracket that opens nothing. -/
def pears : List Char :=
  "груша|груши [x".toList

theorem check_exact_without_rules_pears :
    ("ru" ≠ "" ∧ separator ∈ pears ∧ Decimal.ShortRuns pears ∧
        ∀ piece ∈ pieces pears, ∀ e : Expression, ¬ e.text <:+: piece) ∧
      ∃ count e, Settings.initial.choose pears count (some "ru") = .error e := by
  have hsep : separator ∈ pears := by decide
  have hruns : Decimal.ShortRuns pears := Decimal.shortRuns_of_length_le (by decide)
  have hfree : ∀ piece ∈ pieces pears, ∀ e : Expression, ¬ e.text <:+: piece := by
    intro piece hpiece
    have hnone : ∀ piece ∈ pieces pears, Interval.search piece = .ok none := by decide
    have hshort := hruns.of_isInfix (Template.infix_of_mem_pieces hpiece)
    exact (Interval.search_eq_none_iff hshort).1 (hnone piece hpiece)
  obtain ⟨vs, issues, -, hcheck, herror, -⟩ :=
    check_exact_without_rules Settings.initial (by decide : "ru" ≠ "") hsep hruns hfree
  have hissues : check pears "ru" = .ok [.missingForms "ru" 3 2] := by decide
  cases hissues.symm.trans hcheck
  exact ⟨⟨by decide, hsep, hruns, hfree⟩, herror.1 ⟨_, List.mem_singleton_self _, rfl⟩⟩

end Lint
end PluralMessage
