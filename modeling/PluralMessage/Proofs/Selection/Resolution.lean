import PluralMessage.Proofs.Selection.Rules

/-!
The order in which a message is resolved: a single variant, the first rule that contains the count,
the plural form of the locale. The outcomes exclude each other and leave no case out.
-/
namespace PluralMessage.Settings
open PluralMessage.Template (Reaches separator)

theorem locale_ne_empty (settings : Settings) : settings.locale ≠ "" := by
  intro h
  have hblank := settings.locale_not_blank
  rw [h] at hblank
  exact absurd hblank (by decide)

theorem localeFor_absent (settings : Settings) {locale : Option String}
    (h : locale = none ∨ locale = some "") : settings.localeFor locale = settings.locale := by
  rcases h with rfl | rfl
  · rfl
  · simp [localeFor]

theorem localeFor_given (settings : Settings) {l : String} (h : l ≠ "") :
    settings.localeFor (some l) = l :=
  if_neg (by simpa using h)

theorem localeFor_ne_empty (settings : Settings) (locale : Option String) :
    settings.localeFor locale ≠ "" := by
  cases locale with
  | none => exact settings.locale_ne_empty
  | some l =>
      by_cases h : l = ""
      · rw [settings.localeFor_absent (.inr (congrArg some h))]
        exact settings.locale_ne_empty
      · rwa [settings.localeFor_given h]

theorem choose_of_notMem (settings : Settings) {message : List Char} (h : separator ∉ message)
    (count : Int) (locale : Option String) :
    settings.choose message count locale = .ok ⟨message, 0, .single⟩ := by
  have hs := Template.isSingle_of_notMem h
  simp [choose, Template.split, hs, Except.mapError, bind, Except.bind, pure, Except.pure]

section
variable {vs : List Variant} {count : Int} {locale : String}

theorem choosePlural_eq_ok_iff {choice : Choice} :
    choosePlural vs count locale = .ok choice ↔
      ∃ v, vs[Plural.form count locale]? = some v ∧
        choice = ⟨v.text, Plural.form count locale, .plural locale⟩ := by
  cases hv : vs[Plural.form count locale]? with
  | none => simp [choosePlural, hv]
  | some v => simp [choosePlural, hv, eq_comm]

theorem choosePlural_eq_error_iff {e : Error} :
    choosePlural vs count locale = .error e ↔
      vs.length ≤ Plural.form count locale ∧
        e = .form ⟨Plural.form count locale, vs.length, locale⟩ := by
  rw [← List.getElem?_eq_none_iff]
  cases hv : vs[Plural.form count locale]? with
  | none => simp [choosePlural, hv, eq_comm]
  | some v => simp [choosePlural, hv]

end

section
variable (settings : Settings) {message : List Char} {vs : List Variant}
  {count : Int} {v : Variant} {i : Nat}

/-- With several variants, what is chosen depends on the end of the search for a rule. -/
theorem choose_of_mem (h : separator ∈ message) (hs : Template.split message = .ok vs)
    (count : Int) (locale : Option String) :
    settings.choose message count locale =
      (Template.firstMatch count 0 vs >>= fun
        | some choice => .ok choice
        | none => choosePlural vs count (settings.localeFor locale)) := by
  rw [choose, hs, Template.isSingle_of_mem h]
  refine bind_congr (x := Template.firstMatch count 0 vs) fun found => ?_
  cases found <;> rfl

theorem choose_of_matches (h : separator ∈ message) (hs : Template.split message = .ok vs)
    (hi : Reaches count vs i v) (hv : v.Matches count) (locale : Option String) :
    ∃ rule, v.rule = some rule ∧
      settings.choose message count locale = .ok ⟨v.text, i, .explicit rule⟩ := by
  obtain ⟨rule, interval, hr, hread, hc⟩ := hv
  refine ⟨rule, hr, ?_⟩
  rw [settings.choose_of_mem h hs, Template.firstMatch_of_matches hi hr hread hc, Nat.zero_add]
  rfl

theorem choose_of_malformed {cause : Interval.Malformed} (h : separator ∈ message)
    (hs : Template.split message = .ok vs) (hi : Reaches count vs i v)
    (hv : v.Malformed cause) (locale : Option String) :
    settings.choose message count locale = .error (.interval cause.report) := by
  rw [settings.choose_of_mem h hs, Template.firstMatch_of_malformed hi hv]
  rfl

theorem choose_of_excludes (h : separator ∈ message) (hs : Template.split message = .ok vs)
    (hall : ∀ v ∈ vs, v.Excludes count) (locale : Option String) :
    settings.choose message count locale =
      choosePlural vs count (settings.localeFor locale) := by
  rw [settings.choose_of_mem h hs, Template.firstMatch_of_excludes hall]
  rfl

end

/-- How a message of several variants is resolved: the four outcomes, each with its reason. -/
inductive Outcome (vs : List Variant) (count : Int) (l : String) : Except Error Choice → Prop
  | explicit {i : Nat} {v : Variant} {rule : List Char} (reaches : Reaches count vs i v)
      (found : v.Matches count) (rule_eq : v.rule = some rule) :
      Outcome vs count l (.ok ⟨v.text, i, .explicit rule⟩)
  | malformed {k : Nat} {v : Variant} {cause : Interval.Malformed}
      (reaches : Reaches count vs k v) (malformed : v.Malformed cause) :
      Outcome vs count l (.error (.interval cause.report))
  | plural {v : Variant} (excluded : ∀ w ∈ vs, w.Excludes count)
      (present : vs[Plural.form count l]? = some v) :
      Outcome vs count l (.ok ⟨v.text, Plural.form count l, .plural l⟩)
  | missing (excluded : ∀ w ∈ vs, w.Excludes count)
      (absent : vs.length ≤ Plural.form count l) :
      Outcome vs count l (.error (.form ⟨Plural.form count l, vs.length, l⟩))

theorem outcome_choosePlural {vs : List Variant} {count : Int}
    (hall : ∀ v ∈ vs, v.Excludes count) (l : String) :
    Outcome vs count l (choosePlural vs count l) := by
  cases h : choosePlural vs count l with
  | ok choice =>
      obtain ⟨v, hv, rfl⟩ := choosePlural_eq_ok_iff.1 h
      exact .plural hall hv
  | error e =>
      obtain ⟨hlen, rfl⟩ := choosePlural_eq_error_iff.1 h
      exact .missing hall hlen

section
variable (settings : Settings) {message : List Char} {vs : List Variant}

theorem outcome_choose (h : separator ∈ message) (hs : Template.split message = .ok vs)
    (hread : ∀ v ∈ vs, v.Readable) (count : Int) (locale : Option String) :
    Outcome vs count (settings.localeFor locale) (settings.choose message count locale) := by
  rcases Template.excludes_or_reaches hread count with hall | ⟨i, v, hi, hv | ⟨cause, hv⟩⟩
  · rw [settings.choose_of_excludes h hs hall]
    exact outcome_choosePlural hall _
  · obtain ⟨rule, hr, hchoose⟩ := settings.choose_of_matches h hs hi hv locale
    rw [hchoose]
    exact .explicit hi hv hr
  · rw [settings.choose_of_malformed h hs hi hv]
    exact .malformed hi hv

theorem choose_eq_explicit_iff (h : separator ∈ message) (hs : Template.split message = .ok vs)
    (hread : ∀ v ∈ vs, v.Readable) (count : Int) (locale : Option String) (i : Nat) :
    (∃ text rule, settings.choose message count locale = .ok ⟨text, i, .explicit rule⟩) ↔
      ∃ v, Reaches count vs i v ∧ v.Matches count := by
  constructor
  · rintro ⟨text, rule, hchoose⟩
    have houtcome := settings.outcome_choose h hs hread count locale
    rw [hchoose] at houtcome
    cases houtcome with
    | explicit hi hv hr => exact ⟨_, hi, hv⟩
  · rintro ⟨v, hi, hv⟩
    obtain ⟨rule, -, hchoose⟩ := settings.choose_of_matches h hs hi hv locale
    exact ⟨v.text, rule, hchoose⟩

theorem choose_eq_interval_error_iff (h : separator ∈ message)
    (hs : Template.split message = .ok vs) (hread : ∀ v ∈ vs, v.Readable) (count : Int)
    (locale : Option String) (e : InvalidInterval) :
    settings.choose message count locale = .error (.interval e) ↔
      ∃ k v cause, Reaches count vs k v ∧ v.Malformed cause ∧ e = cause.report := by
  constructor
  · intro hchoose
    have houtcome := settings.outcome_choose h hs hread count locale
    rw [hchoose] at houtcome
    cases houtcome with
    | malformed hk hv => exact ⟨_, _, _, hk, hv, rfl⟩
  · rintro ⟨k, v, cause, hk, hv, rfl⟩
    exact settings.choose_of_malformed h hs hk hv locale

/-- Without a variant to end the search, the plural form of the locale is the index. -/
theorem choose_of_form (h : separator ∈ message) (hs : Template.split message = .ok vs)
    (hread : ∀ v ∈ vs, v.Readable) {count : Int} {locale : Option String}
    (hnone : ∀ i v, Reaches count vs i v → ¬ v.Matches count ∧ ∀ cause, ¬ v.Malformed cause) :
    (∀ v, vs[Plural.form count (settings.localeFor locale)]? = some v →
      settings.choose message count locale =
        .ok ⟨v.text, Plural.form count (settings.localeFor locale),
          .plural (settings.localeFor locale)⟩) ∧
    (vs.length ≤ Plural.form count (settings.localeFor locale) →
      settings.choose message count locale =
        .error (.form ⟨Plural.form count (settings.localeFor locale), vs.length,
          settings.localeFor locale⟩)) := by
  rcases Template.excludes_or_reaches hread count with hall | ⟨i, v, hi, hv⟩
  · rw [settings.choose_of_excludes h hs hall]
    constructor
    · intro v hv
      exact choosePlural_eq_ok_iff.2 ⟨v, hv, rfl⟩
    · intro hlen
      exact choosePlural_eq_error_iff.2 ⟨hlen, rfl⟩
  · obtain ⟨hmatch, hmal⟩ := hnone i v hi
    rcases hv with hv | ⟨cause, hv⟩
    · exact absurd hv hmatch
    · exact absurd hv (hmal cause)

/-- What is chosen of several variants is the text of one of them, by its rule or for a locale. -/
theorem exists_of_choose_eq_ok (h : separator ∈ message) (hs : Template.split message = .ok vs)
    (hread : ∀ v ∈ vs, v.Readable) {count : Int} {locale : Option String} {choice : Choice}
    (hchoose : settings.choose message count locale = .ok choice) :
    ∃ v, vs[choice.index]? = some v ∧ choice.text = v.text ∧
      ((∃ rule, choice.source = .explicit rule ∧ v.rule = some rule) ∨
        choice.source = .plural (settings.localeFor locale)) := by
  have houtcome := settings.outcome_choose h hs hread count locale
  rw [hchoose] at houtcome
  cases houtcome with
  | explicit hi hv hr => exact ⟨_, hi.1, rfl, .inl ⟨_, rfl, hr⟩⟩
  | plural hall hv => exact ⟨_, hv, rfl, .inr rfl⟩

/-- A plural form is asked for only if every rule leaves the count out. -/
theorem excludes_of_choose_plural (h : separator ∈ message) (hs : Template.split message = .ok vs)
    (hread : ∀ v ∈ vs, v.Readable) {count : Int} {locale : Option String} {choice : Choice}
    (hchoose : settings.choose message count locale = .ok choice) {l : String}
    (hsource : choice.source = .plural l) : ∀ v ∈ vs, v.Excludes count := by
  have houtcome := settings.outcome_choose h hs hread count locale
  rw [hchoose] at houtcome
  cases houtcome with
  | explicit => cases hsource
  | plural hall _ => exact hall

/-- The search for a rule looks neither at the locale nor at the settings. -/
theorem choose_eq_of_reaches (h : separator ∈ message) (hs : Template.split message = .ok vs)
    {count : Int} {i : Nat} {v : Variant} (hi : Reaches count vs i v)
    (hv : v.Matches count ∨ ∃ cause, v.Malformed cause) (locale : Option String)
    (other : Settings) (otherLocale : Option String) :
    other.choose message count otherLocale = settings.choose message count locale := by
  rcases hv with hv | ⟨cause, hv⟩
  · obtain ⟨rule, hr, hchoose⟩ := settings.choose_of_matches h hs hi hv locale
    obtain ⟨rule', hr', hother⟩ := other.choose_of_matches h hs hi hv otherLocale
    rw [hchoose, hother, Option.some.inj (hr.symm.trans hr')]
  · rw [settings.choose_of_malformed h hs hi hv, other.choose_of_malformed h hs hi hv]

end

/-- A message without a separator is chosen as it is. Of several variants the first rule that
contains the count decides, a malformed rule is an error when the search comes to it, and if every
rule leaves the count out the plural form of the given or else the default locale is the index.
Where a rule or a single variant decides, locale and settings make no difference. -/
theorem choose_resolution (settings : Settings) {message : List Char}
    (h : Decimal.ShortRuns message) (count : Int) (locale : Option String) :
    (locale = none ∨ locale = some "" → settings.localeFor locale = settings.locale) ∧
    (∀ l, l ≠ "" → locale = some l → settings.localeFor locale = l) ∧
    (separator ∉ message → settings.choose message count locale = .ok ⟨message, 0, .single⟩) ∧
    (separator ∈ message → ∃ vs, Template.split message = .ok vs ∧
      (∀ i, (∃ text rule, settings.choose message count locale = .ok ⟨text, i, .explicit rule⟩) ↔
        ∃ v, Reaches count vs i v ∧ v.Matches count) ∧
      (∀ e, settings.choose message count locale = .error (.interval e) ↔
        ∃ k v cause, Reaches count vs k v ∧ v.Malformed cause ∧ e = cause.report) ∧
      ((∀ i v, Reaches count vs i v → ¬ v.Matches count ∧ ∀ cause, ¬ v.Malformed cause) →
        (∀ v, vs[Plural.form count (settings.localeFor locale)]? = some v →
          settings.choose message count locale =
            .ok ⟨v.text, Plural.form count (settings.localeFor locale),
              .plural (settings.localeFor locale)⟩) ∧
        (vs.length ≤ Plural.form count (settings.localeFor locale) →
          settings.choose message count locale =
            .error (.form ⟨Plural.form count (settings.localeFor locale), vs.length,
              settings.localeFor locale⟩))) ∧
      (∀ choice, settings.choose message count locale = .ok choice →
        ∃ v, vs[choice.index]? = some v ∧ choice.text = v.text ∧
          ((∃ rule, choice.source = .explicit rule ∧ v.rule = some rule) ∨
            choice.source = .plural (settings.localeFor locale) ∧
              settings.localeFor locale ≠ "")) ∧
      ∀ i v, Reaches count vs i v → (v.Matches count ∨ ∃ cause, v.Malformed cause) →
        ∀ (other : Settings) (otherLocale : Option String),
          other.choose message count otherLocale = settings.choose message count locale) := by
  refine ⟨settings.localeFor_absent, ?_, ?_, ?_⟩
  · rintro l hl rfl
    exact settings.localeFor_given hl
  · intro hsep
    exact settings.choose_of_notMem hsep count locale
  · intro hsep
    obtain ⟨vs, hs⟩ := Template.exists_split h
    have hread : ∀ v ∈ vs, v.Readable := fun v hv => Template.readable_of_split h hs hv
    refine ⟨vs, hs, settings.choose_eq_explicit_iff hsep hs hread count locale,
      settings.choose_eq_interval_error_iff hsep hs hread count locale,
      settings.choose_of_form hsep hs hread, ?_, ?_⟩
    · intro choice hchoose
      obtain ⟨v, hv, htext, hsource⟩ := settings.exists_of_choose_eq_ok hsep hs hread hchoose
      exact ⟨v, hv, htext, hsource.imp_right fun hl => ⟨hl, settings.localeFor_ne_empty locale⟩⟩
    · intro i v hi hv other otherLocale
      exact settings.choose_eq_of_reaches hsep hs hi hv locale other otherLocale

/-- A message whose second rule contains 2; its third rule is malformed, behind the one found. -/
def files : List Char :=
  "[0,0] none|[1,3[ few|[x [1,2] many".toList

def filesVariants : List Variant :=
  [⟨"none".toList, some "[0,0]".toList⟩, ⟨"few".toList, some "[1,3[".toList⟩,
    ⟨"[1,2] many".toList, some "[x".toList⟩]

theorem split_files : Template.split files = .ok filesVariants := by
  decide

theorem reaches_files : ∃ v, Reaches 2 filesVariants 1 v ∧ v.Matches 2 := by
  refine ⟨_, ⟨rfl, ?_⟩, "[1,3[".toList, .range .left (some 1) (.finite 3) .left, rfl, by decide,
    by decide⟩
  intro j hj w hw
  obtain rfl : j = 0 := by omega
  cases hw
  rintro _ ⟨⟩
  exact ⟨.range .left (some 0) (.finite 0) .right, by decide, by decide⟩

theorem choose_resolution_files :
    Decimal.ShortRuns files ∧ ∃ text rule,
      initial.choose files 2 none = .ok ⟨text, 1, .explicit rule⟩ := by
  have hshort : Decimal.ShortRuns files := Decimal.shortRuns_of_length_le (by decide)
  refine ⟨hshort, ?_⟩
  obtain ⟨vs, hs, hexplicit, -⟩ := (choose_resolution initial hshort 2 none).2.2.2 (by decide)
  cases split_files.symm.trans hs
  exact (hexplicit 1).2 reaches_files

end PluralMessage.Settings
