import PluralMessage.Lint
import PluralMessage.Proofs.Plural.Forms
import PluralMessage.Proofs.Selection.Resolution

/-!
Lint against selection. The check visits every variant and selection stops at the first that
decides, yet whatever makes a selection fail has been reported: a malformed rule that is reached is
the first one of the report, and a plural form without variant is a missing form.
-/
namespace PluralMessage.Lint
open PluralMessage.Settings (files split_files)
open PluralMessage.Template (separator)

/-- The issue reports a malformed rule. -/
def isInvalid (issue : Issue) : Bool :=
  issue.code == "invalid_interval"

section
variable {k : Nat} {v : Variant} {vs : List Variant} {issues : List Issue}

/-! One variant. -/

theorem readable_of_variantIssues (h : variantIssues k v = .ok issues) : v.Readable := by
  intro rule hr e hread
  simp [variantIssues, ruleIssues, hr, hread, bind, Except.bind] at h

theorem find?_of_malformed {cause : Interval.Malformed} (h : variantIssues k v = .ok issues)
    (hv : v.Malformed cause) : issues.find? isInvalid = some (.invalidInterval k cause) := by
  obtain ⟨rule, hr, hread⟩ := hv
  obtain ⟨own, hown, h⟩ := Except.bind_eq_ok.1 h
  simp only [ruleIssues, hr, hread] at hown
  cases hown
  cases h
  rfl

theorem find?_of_not_malformed (h : variantIssues k v = .ok issues)
    (hv : ∀ cause, ¬ v.Malformed cause) : issues.find? isInvalid = none := by
  obtain ⟨own, hown, h⟩ := Except.bind_eq_ok.1 h
  have hnil : own = [] := by
    simp only [ruleIssues] at hown
    split at hown
    · cases hown; rfl
    · rename_i rule hr
      split at hown
      · cases hown; rfl
      · rename_i cause hread
        exact absurd ⟨rule, hr, hread⟩ (hv cause)
      · cases hown
  cases h
  rw [hnil, List.nil_append]
  split <;> rfl

/-! All variants, in order. -/

theorem readable_of_variantsIssues (h : variantsIssues k vs = .ok issues) :
    ∀ v ∈ vs, v.Readable := by
  induction vs generalizing k issues with
  | nil => simp
  | cons w vs ih =>
      obtain ⟨own, hown, h⟩ := Except.bind_eq_ok.1 h
      obtain ⟨more, hmore, -⟩ := Except.bind_eq_ok.1 h
      intro v hv
      rcases List.mem_cons.1 hv with rfl | hv
      · exact readable_of_variantIssues hown
      · exact ih hmore v hv

theorem find?_eq_none_of_variantsIssues (h : variantsIssues k vs = .ok issues)
    (hall : ∀ v ∈ vs, ∀ cause, ¬ v.Malformed cause) : issues.find? isInvalid = none := by
  induction vs generalizing k issues with
  | nil => cases h; rfl
  | cons w vs ih =>
      obtain ⟨own, hown, h⟩ := Except.bind_eq_ok.1 h
      obtain ⟨more, hmore, h⟩ := Except.bind_eq_ok.1 h
      cases h
      rw [List.find?_append, find?_of_not_malformed hown (hall w (by simp)), Option.none_or]
      exact ih hmore fun v hv => hall v (by simp [hv])

/-- The first malformed rule is the first to be reported, with its place. -/
theorem find?_variantsIssues {i : Nat} {cause : Interval.Malformed}
    (h : variantsIssues k vs = .ok issues) (hi : vs[i]? = some v) (hv : v.Malformed cause)
    (hbefore : ∀ j < i, ∀ w, vs[j]? = some w → ∀ cause, ¬ w.Malformed cause) :
    issues.find? isInvalid = some (.invalidInterval (k + i) cause) := by
  induction vs generalizing k i issues with
  | nil => cases hi
  | cons w vs ih =>
      obtain ⟨own, hown, h⟩ := Except.bind_eq_ok.1 h
      obtain ⟨more, hmore, h⟩ := Except.bind_eq_ok.1 h
      cases h
      rw [List.find?_append]
      cases i with
      | zero =>
          cases hi
          rw [find?_of_malformed hown hv]
          rfl
      | succ i =>
          have hw := hbefore 0 (by omega) w rfl
          rw [find?_of_not_malformed hown hw, Option.none_or,
            ih hmore hi fun j hj u hu => hbefore (j + 1) (by omega) u hu]
          congr 2
          omega

/-! Readable variants can all be reported on. -/

theorem exists_variantIssues (h : v.Readable) (k : Nat) :
    ∃ issues, variantIssues k v = .ok issues := by
  have hown : ∃ own, ruleIssues k v.rule = .ok own := by
    simp only [ruleIssues]
    split
    · exact ⟨_, rfl⟩
    · rename_i rule hr
      split
      · exact ⟨_, rfl⟩
      · exact ⟨_, rfl⟩
      · rename_i e he
        exact absurd he (h rule hr e)
  obtain ⟨own, hown⟩ := hown
  exact ⟨_, Except.bind_eq_ok.2 ⟨own, hown, rfl⟩⟩

theorem exists_variantsIssues (h : ∀ v ∈ vs, v.Readable) (k : Nat) :
    ∃ issues, variantsIssues k vs = .ok issues := by
  induction vs generalizing k with
  | nil => exact ⟨[], rfl⟩
  | cons w vs ih =>
      obtain ⟨own, hown⟩ := exists_variantIssues (h w (by simp)) k
      obtain ⟨more, hmore⟩ := ih (fun v hv => h v (by simp [hv])) (k + 1)
      exact ⟨own ++ more, Except.bind_eq_ok.2 ⟨own, hown, Except.bind_eq_ok.2 ⟨more, hmore, rfl⟩⟩⟩

/-- Every malformed rule is reported, also behind others. -/
theorem mem_variantsIssues {i : Nat} {cause : Interval.Malformed}
    (h : variantsIssues k vs = .ok issues) (hi : vs[i]? = some v) (hv : v.Malformed cause) :
    .invalidInterval (k + i) cause ∈ issues := by
  induction vs generalizing k i issues with
  | nil => cases hi
  | cons w vs ih =>
      obtain ⟨own, hown, h⟩ := Except.bind_eq_ok.1 h
      obtain ⟨more, hmore, h⟩ := Except.bind_eq_ok.1 h
      cases h
      rw [List.mem_append]
      cases i with
      | zero =>
          cases hi
          exact .inl (List.mem_of_find?_eq_some (find?_of_malformed hown hv))
      | succ i =>
          have hmem := ih hmore hi
          rw [Nat.add_assoc, Nat.add_comm 1 i] at hmem
          exact .inr hmem

end

/-! The whole report. -/

/-- What lint says of several variants, `own` being their own issues. -/
def report (vs : List Variant) (own : List Issue) (locale : String) : List Issue :=
  localeIssues locale ++ own ++ countIssues vs locale

theorem mem_report {vs : List Variant} {own : List Issue} {locale : String} {issue : Issue} :
    issue ∈ report vs own locale ↔
      issue ∈ localeIssues locale ∨ issue ∈ own ∨ issue ∈ countIssues vs locale := by
  rw [report, List.append_assoc, List.mem_append, List.mem_append]

theorem check_of_mem {message : List Char} {locale : String} {issues : List Issue}
    (hsep : separator ∈ message) (h : check message locale = .ok issues) :
    ∃ vs own, Template.split message = .ok vs ∧ variantsIssues 0 vs = .ok own ∧
      issues = report vs own locale := by
  obtain ⟨vs, hs, h⟩ := Except.bind_eq_ok.1 h
  rw [Template.isSingle_of_mem hsep, if_neg Bool.false_ne_true] at h
  obtain ⟨own, hown, h⟩ := Except.bind_eq_ok.1 h
  cases h
  exact ⟨vs, own, hs, hown, rfl⟩

theorem exists_check {message : List Char} {vs : List Variant} (hsep : separator ∈ message)
    (hs : Template.split message = .ok vs) (h : ∀ v ∈ vs, v.Readable) (locale : String) :
    ∃ own, variantsIssues 0 vs = .ok own ∧
      check message locale = .ok (report vs own locale) := by
  obtain ⟨own, hown⟩ := exists_variantsIssues h 0
  refine ⟨own, hown, Except.bind_eq_ok.2 ⟨vs, hs, ?_⟩⟩
  rw [Template.isSingle_of_mem hsep, if_neg Bool.false_ne_true]
  exact Except.bind_eq_ok.2 ⟨own, hown, rfl⟩

theorem reported_of_malformed {message : List Char} {vs : List Variant} (hsep : separator ∈ message)
    (hs : Template.split message = .ok vs) (h : ∀ v ∈ vs, v.Readable) {i : Nat} {v : Variant}
    {cause : Interval.Malformed} (hi : vs[i]? = some v) (hv : v.Malformed cause) (locale : String) :
    ∃ issues, check message locale = .ok issues ∧ .invalidInterval i cause ∈ issues := by
  obtain ⟨own, hown, hcheck⟩ := exists_check hsep hs h locale
  have hmem := mem_variantsIssues hown hi hv
  rw [Nat.zero_add] at hmem
  exact ⟨_, hcheck, mem_report.2 (.inr (.inl hmem))⟩

theorem find?_localeIssues (locale : String) : (localeIssues locale).find? isInvalid = none := by
  unfold localeIssues
  split <;> rfl

theorem find?_countIssues (vs : List Variant) (locale : String) :
    (countIssues vs locale).find? isInvalid = none := by
  simp only [countIssues]
  split
  · rfl
  · split <;> rfl

theorem find?_report (own : List Issue) (vs : List Variant) (locale : String) :
    (report vs own locale).find? isInvalid = own.find? isInvalid := by
  rw [report, List.find?_append, List.find?_append, find?_localeIssues, find?_countIssues,
    Option.none_or, Option.or_none]

theorem countIssues_of_lt {vs : List Variant} {locale : String}
    (h : vs.length < Plural.forms locale) :
    countIssues vs locale = [.missingForms locale (Plural.forms locale) vs.length] := by
  simp only [countIssues, if_pos h]

theorem hasErrors_of_mem {issues : List Issue} {issue : Issue} (h : issue ∈ issues)
    (he : issue.severity = .error) : hasErrors issues = true :=
  List.any_eq_true.2 ⟨issue, h, by simp [he]⟩

section
variable {settings : Settings} {message : List Char} {locale : String} {issues : List Issue}
  {count : Int}

/-- A selection that fails ends for one of the reasons that the check has looked for. -/
theorem outcome_of_choose_error {e : Error} (hl : locale ≠ "")
    (h : check message locale = .ok issues)
    (he : settings.choose message count (some locale) = .error e) :
    ∃ vs own, Template.split message = .ok vs ∧ variantsIssues 0 vs = .ok own ∧
      issues = report vs own locale ∧
      Settings.Outcome vs count locale (.error e) := by
  have hsep : separator ∈ message := by
    by_contra hsep
    rw [settings.choose_of_notMem hsep] at he
    cases he
  obtain ⟨vs, own, hs, hown, hissues⟩ := check_of_mem hsep h
  have houtcome := settings.outcome_choose hsep hs (readable_of_variantsIssues hown) count
    (some locale)
  rw [settings.localeFor_given hl, he] at houtcome
  exact ⟨vs, own, hs, hown, hissues, houtcome⟩

theorem invalid_reported {e : InvalidInterval} (hl : locale ≠ "")
    (h : check message locale = .ok issues)
    (he : settings.choose message count (some locale) = .error (.interval e)) :
    ∃ vs k cause, Template.split message = .ok vs ∧
      issues.find? isInvalid = some (.invalidInterval k cause) ∧ cause.report = e ∧
      ∀ j < k, ∀ w, vs[j]? = some w → w.Excludes count := by
  obtain ⟨vs, own, hs, hown, rfl, houtcome⟩ := outcome_of_choose_error hl h he
  cases houtcome with
  | malformed hk hv =>
      refine ⟨vs, _, _, hs, ?_, rfl, hk.2⟩
      rw [find?_report, find?_variantsIssues hown hk.1 hv
        fun j hj w hw => (hk.2 j hj w hw).not_malformed, Nat.zero_add]

theorem missing_reported {e : MissingForm} (hl : locale ≠ "")
    (h : check message locale = .ok issues)
    (he : settings.choose message count (some locale) = .error (.form e)) :
    .missingForms locale (Plural.forms locale) e.variants ∈ issues ∧
      issues.find? isInvalid = none := by
  obtain ⟨vs, own, hs, hown, rfl, houtcome⟩ := outcome_of_choose_error hl h he
  cases houtcome with
  | missing hall habsent =>
      have hlt : vs.length < Plural.forms locale :=
        Nat.lt_of_le_of_lt habsent (Plural.form_lt_forms count locale)
      constructor
      · simp [mem_report, countIssues_of_lt hlt]
      · rw [find?_report]
        exact find?_eq_none_of_variantsIssues hown fun v hv => (hall v hv).not_malformed

/-- Nothing but these two errors ends a selection that has been checked. -/
theorem error_of_check {e : Error} (hl : locale ≠ "") (h : check message locale = .ok issues)
    (he : settings.choose message count (some locale) = .error e) :
    (∃ cause, e = .interval cause) ∨ ∃ form, e = .form form := by
  obtain ⟨vs, own, -, -, -, houtcome⟩ := outcome_of_choose_error hl h he
  cases houtcome with
  | malformed _ _ => exact .inl ⟨_, rfl⟩
  | missing _ _ => exact .inr ⟨_, rfl⟩

theorem exists_choice_of_no_errors (hl : locale ≠ "") (h : check message locale = .ok issues)
    (hclean : hasErrors issues = false) (settings : Settings) (count : Int) :
    ∃ choice, settings.choose message count (some locale) = .ok choice := by
  cases hchoose : settings.choose message count (some locale) with
  | ok choice => exact ⟨choice, rfl⟩
  | error e =>
      exfalso
      rcases error_of_check hl h hchoose with ⟨cause, rfl⟩ | ⟨form, rfl⟩
      · obtain ⟨-, k, cause, -, hfind, -⟩ := invalid_reported hl h hchoose
        have herrors := hasErrors_of_mem (List.mem_of_find?_eq_some hfind) rfl
        rw [hclean] at herrors
        cases herrors
      · have herrors := hasErrors_of_mem (missing_reported hl h hchoose).1 rfl
        rw [hclean] at herrors
        cases herrors

end

/-- Lint foresees every failure of a selection, and there are two kinds: the malformed rule that
ends it is the first one reported, with the message of the error, and no rule before it contains
the count; if a plural form has no variant, forms are reported missing and no rule is malformed. A
template without errors has a choice for every count. -/
theorem check_foresees_choose (settings : Settings) {message : List Char} {locale : String}
    {issues : List Issue} (hl : locale ≠ "") (h : check message locale = .ok issues) :
    (∀ count e, settings.choose message count (some locale) = .error (.interval e) →
      ∃ vs k issue, Template.split message = .ok vs ∧
        issues.find? (fun issue => issue.code == "invalid_interval") = some issue ∧
        issue.variant? = some k ∧ issue.message = e.message ∧
        ∀ j < k, ∀ w, vs[j]? = some w → w.Excludes count) ∧
    (∀ count e, settings.choose message count (some locale) = .error (.form e) →
      (∃ issue ∈ issues, issue.code = "missing_forms") ∧
        ∀ issue ∈ issues, issue.code ≠ "invalid_interval") ∧
    (∀ count e, settings.choose message count (some locale) = .error e →
      (∃ cause, e = .interval cause) ∨ ∃ form, e = .form form) ∧
    (hasErrors issues = false →
      ∀ count, ∃ choice, settings.choose message count (some locale) = .ok choice) := by
  refine ⟨?_, ?_, ?_, ?_⟩
  · intro count e he
    obtain ⟨vs, k, cause, hs, hfind, rfl, hbefore⟩ := invalid_reported hl h he
    exact ⟨vs, k, .invalidInterval k cause, hs, hfind, rfl, rfl, hbefore⟩
  · intro count e he
    obtain ⟨hmissing, hnone⟩ := missing_reported hl h he
    refine ⟨⟨_, hmissing, rfl⟩, ?_⟩
    intro issue hissue hcode
    have hnot := List.find?_eq_none.1 hnone issue hissue
    exact hnot (by simp [isInvalid, hcode])
  · intro count e he
    exact error_of_check hl h he
  · intro hclean count
    exact exists_choice_of_no_errors hl h hclean settings count

/-- The fault of the sample message, whose third rule starts like an interval and is none. -/
def filesCause : Interval.Malformed :=
  .wanted .number "[x".toList 1

theorem choose_files : Settings.initial.choose files 7 (some "en") =
    .error (.interval filesCause.report) := by
  refine Settings.initial.choose_of_malformed (by decide) split_files
    (v := ⟨"[1,2] many".toList, some "[x".toList⟩) (i := 2) ?_
    ⟨"[x".toList, rfl, by decide⟩ (some "en")
  refine (Template.reaches_zero.cons ?_).cons ?_
  · rintro _ ⟨⟩
    exact ⟨.range .left (some 1) (.finite 3) .left, by decide, by decide⟩
  · rintro _ ⟨⟩
    exact ⟨.range .left (some 0) (.finite 0) .right, by decide, by decide⟩

/-- A malformed rule that a count gets to, and a third form that two variants do not have. -/
theorem check_foresees_choose_files :
    ("en" ≠ "" ∧ check files "en" = .ok [.invalidInterval 2 filesCause] ∧
        Settings.initial.choose files 7 (some "en") = .error (.interval filesCause.report)) ∧
      (∃ vs issue, Template.split files = .ok vs ∧
        [Issue.invalidInterval 2 filesCause].find? (fun issue => issue.code == "invalid_interval") =
          some issue ∧ issue.message = filesCause.report.message ∧
        ∃ k, issue.variant? = some k ∧ ∀ j < k, ∀ w, vs[j]? = some w → w.Excludes 7) ∧
      ("ru" ≠ "" ∧ check "file|files".toList "ru" = .ok [.missingForms "ru" 3 2] ∧
        Settings.initial.choose "file|files".toList 5 (some "ru") =
          .error (.form ⟨2, 2, "ru"⟩)) ∧
      (∃ issue ∈ [Issue.missingForms "ru" 3 2], issue.code = "missing_forms") ∧
        ∀ issue ∈ [Issue.missingForms "ru" 3 2], issue.code ≠ "invalid_interval" := by
  have hcheck : check files "en" = .ok [.invalidInterval 2 filesCause] := by decide
  have hforms : check "file|files".toList "ru" = .ok [.missingForms "ru" 3 2] := by decide
  have hmissing : Settings.initial.choose "file|files".toList 5 (some "ru") =
      .error (.form ⟨2, 2, "ru"⟩) := rfl
  obtain ⟨vs, k, issue, hs, hfind, hk, hmessage, hbefore⟩ :=
    (check_foresees_choose Settings.initial (by decide) hcheck).1 7 _ choose_files
  exact ⟨⟨by decide, hcheck, choose_files⟩, ⟨vs, issue, hs, hfind, hmessage, k, hk, hbefore⟩,
    ⟨by decide, hforms, hmissing⟩,
    (check_foresees_choose Settings.initial (by decide) hforms).2.1 5 _ hmissing⟩

end PluralMessage.Lint
