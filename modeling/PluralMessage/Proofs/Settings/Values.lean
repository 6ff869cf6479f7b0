import PluralMessage.Proofs.Except
import PluralMessage.Proofs.Text.Trim
import PluralMessage.Proofs.Value
import PluralMessage.Settings.Basic

/-!
Reading settings from values. Each setting has its usable values; of the values that are given, the
first one that is not usable is reported, in the order in which the settings are read.
-/
namespace PluralMessage

/-- The text that a locale is read from; it is empty for a value that is no text. -/
def Value.localeText : Value → String
  | text s => s
  | _ => ""

namespace Setting

/-- The settings that are read before another one. -/
def before : Setting → List Setting
  | locale => []
  | level => [locale]
  | substitute => [locale, level]

/-- What a setting can be read from: a text that is not blank, the name of a level in any case, or
a value whose text is a word for a truth value. -/
def Usable : Setting → Value → Prop
  | locale, v => Text.isBlankString v.localeText = false
  | level, .text s => ∃ l : LogLevel, Text.upper s.toList = l.name.toList
  | level, _ => False
  | substitute, v =>
      ∃ s, v.chars? = some s ∧
        Text.lower (Text.trim s) ∈ Settings.trueWords ++ Settings.falseWords

/-- Reads a value for a setting and tells only whether it is usable. -/
def check (room : Setting → Nat) : Setting → Value → Except SettingsError Unit
  | locale, v => (Settings.readLocale (room locale) v).map fun _ => ()
  | level, v => (Settings.readLevel (room level) v).map fun _ => ()
  | substitute, v => (Settings.readSubstitute (room substitute) v).map fun _ => ()

/-- The report on a value that is not usable. -/
def report (room : Setting → Nat) : Setting → Value → SettingsError
  | locale => .report .locale (room locale)
  | level => .report .level (room level)
  | substitute => .report .substitute (room substitute)

end Setting

theorem Settings.readLocale_eq (room : Nat) (v : Value) :
    readLocale room v =
      if h : Text.isBlankString v.localeText = false then .ok ⟨v.localeText, h⟩
      else .error (.report .locale room v) := by
  cases v <;> rfl

theorem Settings.readSubstitute_eq (room : Nat) {v : Value} (h : ∀ b, v ≠ .bool b) :
    readSubstitute room v =
      let word := (v.charsIn? room).map fun s => Text.lower (Text.trim s)
      if word.any trueWords.contains then .ok true
      else if word.any falseWords.contains then .ok false
      else .error (.report .substitute room v) := by
  cases v with
  | bool b => exact absurd rfl (h b)
  | _ => rfl

/-! Words for truth values. Nothing nests in a value whose text is one of them. -/

theorem Text.isBlank_opener {c : Char} (h : c ∈ Value.openers) : isBlank c = false := by
  rcases Value.mem_openers.1 h with rfl | rfl | rfl | rfl <;> rfl

theorem Text.lower_opener {c : Char} (h : c ∈ Value.openers) (s : List Char) :
    lower (c :: s) = c :: lowerAfter [c] s := by
  rcases Value.mem_openers.1 h with rfl | rfl | rfl | rfl <;> rfl

theorem Settings.head?_ne_opener {c : Char} (h : c ∈ Value.openers) :
    ∀ word ∈ trueWords ++ falseWords, word.head? ≠ some c := by
  rcases Value.mem_openers.1 h with rfl | rfl | rfl | rfl <;> decide

theorem Value.obstacle?_of_word {v : Value} {s : List Char} (hs : v.chars? = some s)
    (hword : Text.lower (Text.trim s) ∈ Settings.trueWords ++ Settings.falseWords) (room : Nat) :
    v.obstacle? room = none := by
  by_contra h
  obtain ⟨c, hc, t, rfl⟩ := exists_opener h hs
  obtain ⟨u, hu⟩ := Text.trim_cons (Text.isBlank_opener hc) t
  rw [hu, Text.lower_opener hc] at hword
  exact Settings.head?_ne_opener hc _ hword rfl

theorem LogLevel.mem_all (l : LogLevel) : l ∈ all := by
  cases l <;> decide

theorem LogLevel.ofText?_eq_none_iff {s : String} :
    ofText? s = none ↔ ∀ l : LogLevel, Text.upper s.toList ≠ l.name.toList := by
  simp [ofText?, LogLevel.mem_all]

namespace Setting

theorem report_eq_unwritten_iff {room : Setting → Nat} {setting : Setting} {v : Value}
    {e : Value.Obstacle} :
    setting.report room v = .unwritten e ↔ v.obstacle? (room setting) = some e := by
  rw [← Value.writtenIn_eq_error_iff]
  cases setting <;> cases hv : v.writtenIn (room _) <;> simp [report, SettingsError.report, hv]

/-- A value is read for a setting if it is usable, and otherwise reported. -/
inductive Checked (room : Setting → Nat) (setting : Setting) (v : Value) :
    Except SettingsError Unit → Prop
  | usable (h : setting.Usable v) : Checked room setting v (.ok ())
  | unusable (h : ¬ setting.Usable v) : Checked room setting v (.error (setting.report room v))

section
variable (room : Setting → Nat)

theorem checked_locale (v : Value) : Checked room locale v (check room locale v) := by
  rw [check, Settings.readLocale_eq]
  split
  · rename_i h
    exact .usable h
  · rename_i h
    exact .unusable h

theorem checked_level (v : Value) : Checked room level v (check room level v) := by
  cases v with
  | text s =>
      cases h : LogLevel.ofText? s with
      | some l =>
          have hl : Text.upper s.toList = l.name.toList := by
            simpa using List.find?_some h
          simp only [check, Settings.readLevel, h]
          exact .usable ⟨l, hl⟩
      | none =>
          simp only [check, Settings.readLevel, h]
          refine .unusable ?_
          rintro ⟨l, hl⟩
          exact LogLevel.ofText?_eq_none_iff.1 h l hl
  | _ => exact .unusable id

theorem usable_bool (b : Bool) : substitute.Usable (.bool b) := by
  cases b with
  | true => exact ⟨"True".toList, rfl, by decide⟩
  | false => exact ⟨"False".toList, rfl, by decide⟩

/-- Whether a value has a word for its text does not depend on the room. -/
theorem usable_substitute_iff {v : Value} :
    substitute.Usable v ↔ ∃ s, v.charsIn? (room substitute) = some s ∧
      Text.lower (Text.trim s) ∈ Settings.trueWords ++ Settings.falseWords := by
  constructor
  · rintro ⟨s, hs, hword⟩
    exact ⟨s, Value.charsIn?_eq_some_iff.2 ⟨Value.obstacle?_of_word hs hword _, hs⟩, hword⟩
  · rintro ⟨s, hs, hword⟩
    exact ⟨s, (Value.charsIn?_eq_some_iff.1 hs).2, hword⟩

theorem checked_substitute (v : Value) :
    Checked room substitute v (check room substitute v) := by
  by_cases hb : ∃ b, v = .bool b
  · obtain ⟨b, rfl⟩ := hb
    exact .usable (usable_bool b)
  · rw [check, Settings.readSubstitute_eq _ fun b hv => hb ⟨b, hv⟩]
    have husable := usable_substitute_iff room (v := v)
    cases hs : v.charsIn? (room substitute) with
    | none => exact .unusable (by simp [husable, hs])
    | some s =>
        simp only [hs, Option.some.injEq, exists_eq_left', List.mem_append] at husable
        simp only [Option.map_some, Option.any_some, List.contains_iff_mem]
        split
        · rename_i h
          exact .usable (husable.2 (.inl h))
        · rename_i hnot
          split
          · rename_i h
            exact .usable (husable.2 (.inr h))
          · rename_i hnot'
            exact .unusable (by simp [husable, hnot, hnot'])

theorem checked (setting : Setting) (v : Value) :
    Checked room setting v (setting.check room v) := by
  cases setting with
  | locale => exact checked_locale room v
  | level => exact checked_level room v
  | substitute => exact checked_substitute room v

end

section
variable {room : Setting → Nat} {setting : Setting} {v : Value}

theorem check_eq_ok_iff : setting.check room v = .ok () ↔ setting.Usable v := by
  have h := setting.checked room v
  generalize setting.check room v = x at h
  cases h with
  | usable h => simp [h]
  | unusable h => simp [h]

theorem check_eq_error_iff {e : SettingsError} :
    setting.check room v = .error e ↔ ¬ setting.Usable v ∧ e = setting.report room v := by
  have h := setting.checked room v
  generalize setting.check room v = x at h
  cases h with
  | usable h => simp [h]
  | unusable h => simp [h, eq_comm]

end

end Setting

/-- Of the values that are given, one is the first that is not usable. -/
structure FirstUnusable (value? : Setting → Option Value) (setting : Setting) (v : Value) :
    Prop where
  given : value? setting = some v
  unusable : ¬ setting.Usable v
  usable_before : ∀ earlier ∈ setting.before, ∀ w, value? earlier = some w → earlier.Usable w

namespace Settings

/-- Reads a value, if there is one, and takes another result if there is none. -/
def readOr {α : Type} (read : Value → Except SettingsError α) (a : α) :
    Option Value → Except SettingsError α
  | some v => read v
  | none => .ok a

/-- Checks the value of a setting, if there is one. -/
def checkGiven (room : Setting → Nat) (value? : Setting → Option Value) (setting : Setting) :
    Except SettingsError Unit :=
  match value? setting with
  | some v => setting.check room v
  | none => .ok ()

section
variable {room : Setting → Nat} {value? : Setting → Option Value}

theorem checkGiven_eq_ok_iff {setting : Setting} :
    checkGiven room value? setting = .ok () ↔ ∀ v, value? setting = some v → setting.Usable v := by
  cases h : value? setting <;> simp [checkGiven, h, Setting.check_eq_ok_iff]

theorem checkGiven_eq_error_iff {setting : Setting} {e : SettingsError} :
    checkGiven room value? setting = .error e ↔
      ∃ v, value? setting = some v ∧ ¬ setting.Usable v ∧ e = setting.report room v := by
  cases h : value? setting <;> simp [checkGiven, h, Setting.check_eq_error_iff]

theorem ofValues_eq (room : Setting → Nat) (value? : Setting → Option Value) :
    ofValues room value? = (do
      let locale ← readOr (readLocale (room .locale))
        ⟨initial.locale, initial.locale_not_blank⟩ (value? .locale)
      let level ← readOr (readLevel (room .level)) initial.level (value? .level)
      let substitute ← readOr (readSubstitute (room .substitute)) initial.substitute
        (value? .substitute)
      .ok { locale := locale.1, substitute, level, locale_not_blank := locale.2 }) := by
  simp only [ofValues]
  cases value? .locale <;> cases value? .level <;> cases value? .substitute <;> rfl

/-- The values of settings are read one after the other. -/
theorem map_ofValues (room : Setting → Nat) (value? : Setting → Option Value) :
    (ofValues room value?).map (fun _ => ()) = (do
      checkGiven room value? .locale
      checkGiven room value? .level
      checkGiven room value? .substitute) := by
  have hlocale : checkGiven room value? .locale = (readOr (readLocale (room .locale))
      ⟨initial.locale, initial.locale_not_blank⟩ (value? .locale)).map fun _ => () := by
    cases h : value? .locale <;> simp [checkGiven, h, readOr, Setting.check, Except.map]
  have hlevel : checkGiven room value? .level =
      (readOr (readLevel (room .level)) initial.level (value? .level)).map fun _ => () := by
    cases h : value? .level <;> simp [checkGiven, h, readOr, Setting.check, Except.map]
  have hsubstitute : checkGiven room value? .substitute =
      (readOr (readSubstitute (room .substitute)) initial.substitute (value? .substitute)).map fun _ => () := by
    cases h : value? .substitute <;> simp [checkGiven, h, readOr, Setting.check, Except.map]
  rw [ofValues_eq, hlocale, hlevel, hsubstitute]
  cases readOr (readLocale (room .locale)) ⟨initial.locale, initial.locale_not_blank⟩ (value? .locale) with
  | error e => rfl
  | ok locale =>
      cases readOr (readLevel (room .level)) initial.level (value? .level) with
      | error e => rfl
      | ok level =>
          cases readOr (readSubstitute (room .substitute)) initial.substitute (value? .substitute) <;> rfl

variable (room) in
/-- Settings are read if all values that are given are usable. -/
theorem exists_ofValues_iff :
    (∃ settings, ofValues room value? = .ok settings) ↔
      ∀ setting v, value? setting = some v → setting.Usable v := by
  constructor
  · rintro ⟨settings, h⟩ setting v hv
    have hchecks : (ofValues room value?).map (fun _ => ()) = .ok () :=
      Except.map_eq_ok.2 ⟨settings, h, rfl⟩
    rw [map_ofValues] at hchecks
    obtain ⟨⟨⟩, hlocale, hchecks⟩ := Except.bind_eq_ok.1 hchecks
    obtain ⟨⟨⟩, hlevel, hsubstitute⟩ := Except.bind_eq_ok.1 hchecks
    cases setting with
    | locale => exact checkGiven_eq_ok_iff.1 hlocale v hv
    | level => exact checkGiven_eq_ok_iff.1 hlevel v hv
    | substitute => exact checkGiven_eq_ok_iff.1 hsubstitute v hv
  · intro h
    have hok : ∀ setting, checkGiven room value? setting = .ok () :=
      fun setting => checkGiven_eq_ok_iff.2 (h setting)
    have hchecks : (ofValues room value?).map (fun _ => ()) = .ok () := by
      rw [map_ofValues, hok, hok, hok]
      rfl
    obtain ⟨settings, hsettings, -⟩ := Except.map_eq_ok.1 hchecks
    exact ⟨settings, hsettings⟩

/-- The report is on the first value that is not usable. -/
theorem ofValues_eq_error_iff {e : SettingsError} :
    ofValues room value? = .error e ↔
      ∃ setting v, FirstUnusable value? setting v ∧ e = setting.report room v := by
  rw [← Except.map_eq_error (f := fun _ => ()), map_ofValues]
  constructor
  · intro h
    rcases Except.bind_eq_error.1 h with h | ⟨⟨⟩, hlocale, h⟩
    · obtain ⟨v, hv, hunusable, he⟩ := checkGiven_eq_error_iff.1 h
      exact ⟨.locale, v, ⟨hv, hunusable, by simp [Setting.before]⟩, he⟩
    · rcases Except.bind_eq_error.1 h with h | ⟨⟨⟩, hlevel, h⟩
      · obtain ⟨v, hv, hunusable, he⟩ := checkGiven_eq_error_iff.1 h
        exact ⟨.level, v, ⟨hv, hunusable,
          by simpa [Setting.before] using checkGiven_eq_ok_iff.1 hlocale⟩, he⟩
      · obtain ⟨v, hv, hunusable, he⟩ := checkGiven_eq_error_iff.1 h
        exact ⟨.substitute, v, ⟨hv, hunusable, by
          simpa [Setting.before] using
            And.intro (checkGiven_eq_ok_iff.1 hlocale) (checkGiven_eq_ok_iff.1 hlevel)⟩, he⟩
  · rintro ⟨setting, v, hfirst, rfl⟩
    have herror : checkGiven room value? setting = .error (setting.report room v) :=
      checkGiven_eq_error_iff.2 ⟨v, hfirst.given, hfirst.unusable, rfl⟩
    have hok : ∀ earlier ∈ setting.before, checkGiven room value? earlier = .ok () :=
      fun earlier he => checkGiven_eq_ok_iff.2 (hfirst.usable_before earlier he)
    cases setting with
    | locale => exact Except.bind_eq_error.2 (.inl herror)
    | level =>
        have hlocale := hok .locale (by simp [Setting.before])
        exact Except.bind_eq_error.2 (.inr ⟨(), hlocale, Except.bind_eq_error.2 (.inl herror)⟩)
    | substitute =>
        have hlocale := hok .locale (by simp [Setting.before])
        have hlevel := hok .level (by simp [Setting.before])
        exact Except.bind_eq_error.2 (.inr ⟨(), hlocale,
          Except.bind_eq_error.2 (.inr ⟨(), hlevel, herror⟩)⟩)

/-- What is in the way of writing a value matters only if the value is the first unusable one. -/
theorem ofValues_eq_unwritten_iff {e : Value.Obstacle} :
    ofValues room value? = .error (.unwritten e) ↔
      ∃ setting v, FirstUnusable value? setting v ∧ v.obstacle? (room setting) = some e := by
  simp only [ofValues_eq_error_iff, eq_comm (a := SettingsError.unwritten e),
    Setting.report_eq_unwritten_iff]

theorem ofValues_ne_unwritten
    (h : ∀ setting v, value? setting = some v → v.HasTextIn (room setting)) (e : Value.Obstacle) :
    ofValues room value? ≠ .error (.unwritten e) := by
  intro herror
  obtain ⟨setting, v, hfirst, hobstacle⟩ := ofValues_eq_unwritten_iff.1 herror
  rw [Value.hasTextIn_iff.1 (h setting v hfirst.given)] at hobstacle
  cases hobstacle

end

theorem hasTextIn_toValue (room : Nat) (settings : Settings) (setting : Setting) :
    (settings.toValue setting).HasTextIn room := by
  rw [Value.hasTextIn_iff]
  cases setting <;> rfl

theorem hasTextIn_of_environmentValue? {environment : List (String × String)} {setting : Setting}
    {v : Value} (h : environmentValue? environment setting = some v) (room : Nat) :
    v.HasTextIn room := by
  unfold environmentValue? at h
  split at h
  · split at h
    · cases h
    · cases h
      exact Value.hasTextIn_iff.2 rfl
  · cases h

/-- The environment holds texts, and settings as values are texts or truth values. -/
theorem overlay_ne_unwritten (environment : List (String × String)) (base : Settings)
    (e : Value.Obstacle) : base.overlay environment ≠ .error (.unwritten e) := by
  refine ofValues_ne_unwritten (fun setting v hv => ?_) e
  cases henv : environmentValue? environment setting with
  | none =>
      rw [henv] at hv
      cases hv
      exact base.hasTextIn_toValue 0 setting
  | some w =>
      rw [henv] at hv
      cases hv
      exact hasTextIn_of_environmentValue? henv 0

end Settings
end PluralMessage
