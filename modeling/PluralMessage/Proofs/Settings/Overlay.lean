import PluralMessage.Proofs.Settings.Values

/-!
Settings on top of others. All values are read again when the environment is put on top of settings;
this leaves alone what it does not replace, as a value that was read is in a normal form, in which
it is usable and stays as it is. So every setting is decided by itself.
-/
namespace PluralMessage

/-- The form in which a usable value is kept: the locale as a text, the name of the level in upper
case, a truth value. -/
def Setting.normal : Setting → Value → Value
  | locale, v => .text v.localeText
  | level, .text s => .text (String.ofList (Text.upper s.toList))
  | level, v => v
  | substitute, v =>
      .bool ((v.chars?.map fun s => Text.lower (Text.trim s)).any Settings.trueWords.contains)

namespace Settings

/-! What is read is the normal form. -/

theorem normal_of_readLocale {room : Nat} {v : Value}
    {l : { s : String // Text.isBlankString s = false }} (h : readLocale room v = .ok l) : Setting.locale.normal v = .text l.1 := by
  rw [readLocale_eq] at h
  split at h
  · cases h
    rfl
  · cases h

theorem normal_of_readLevel {room : Nat} {v : Value} {l : LogLevel}
    (h : readLevel room v = .ok l) :
    Setting.level.normal v = .text l.name := by
  cases v with
  | text s =>
      simp only [readLevel] at h
      split at h
      · rename_i hfound
        cases h
        have hname : Text.upper s.toList = l.name.toList := by
          simpa using List.find?_some hfound
        rw [Setting.normal, hname, String.ofList_toList]
      · cases h
  | _ => cases h

theorem normal_bool (b : Bool) : Setting.substitute.normal (.bool b) = .bool b := by
  cases b with
  | true => exact congrArg Value.bool (by decide)
  | false => exact congrArg Value.bool (by decide)

theorem normal_of_readSubstitute {room : Nat} {v : Value} {b : Bool}
    (h : readSubstitute room v = .ok b) : Setting.substitute.normal v = .bool b := by
  by_cases hb : ∃ b, v = .bool b
  · obtain ⟨b', rfl⟩ := hb
    cases h
    exact normal_bool b
  · rw [readSubstitute_eq room fun b hv => hb ⟨b, hv⟩] at h
    cases hs : v.charsIn? room with
    | none => simp [hs] at h
    | some s =>
        -- In enough room the text is the one that the normal form is made of.
        rw [Setting.normal, (Value.charsIn?_eq_some_iff.1 hs).2]
        simp only [hs] at h
        split at h
        · rename_i hword
          cases h
          rw [hword]
        · rename_i hword
          split at h
          · cases h
            rw [Bool.eq_false_iff.2 hword]
          · cases h

/-! Settings as values. -/

theorem upper_name (l : LogLevel) : Text.upper l.name.toList = l.name.toList := by
  cases l <;> decide

theorem usable_toValue (settings : Settings) (setting : Setting) :
    setting.Usable (settings.toValue setting) := by
  cases setting with
  | locale => exact settings.locale_not_blank
  | level => exact ⟨settings.level, upper_name settings.level⟩
  | substitute => exact Setting.usable_bool settings.substitute

theorem normal_toValue (settings : Settings) (setting : Setting) :
    setting.normal (settings.toValue setting) = settings.toValue setting := by
  cases setting with
  | locale => rfl
  | level => simp only [toValue, Setting.normal, upper_name, String.ofList_toList]
  | substitute => exact normal_bool settings.substitute

/-! One layer, then the next. -/

theorem eq_of_readOr {α : Type} (asValue : α → Value) {read : Value → Except SettingsError α}
    {normal : Value → Value} (hread : ∀ v a, read v = .ok a → normal v = asValue a)
    {start a : α} {given : Option Value} (h : readOr read start given = .ok a) :
    asValue a = (given.map normal).getD (asValue start) := by
  cases given with
  | none =>
      cases h
      rfl
  | some v => exact (hread v a h).symm

theorem toValue_of_ofValues {room : Setting → Nat} {value? : Setting → Option Value}
    {settings : Settings} (h : ofValues room value? = .ok settings) (setting : Setting) :
    settings.toValue setting =
      ((value? setting).map setting.normal).getD (initial.toValue setting) := by
  rw [ofValues_eq] at h
  obtain ⟨l, hlocale, h⟩ := Except.bind_eq_ok.1 h
  obtain ⟨level, hlevel, h⟩ := Except.bind_eq_ok.1 h
  obtain ⟨b, hsubstitute, h⟩ := Except.bind_eq_ok.1 h
  cases h
  cases setting with
  | locale =>
      exact eq_of_readOr (fun l => .text l.1) (fun _ _ => normal_of_readLocale) hlocale
  | level =>
      exact eq_of_readOr (fun l => .text l.name) (fun _ _ => normal_of_readLevel) hlevel
  | substitute =>
      exact eq_of_readOr .bool (fun _ _ => normal_of_readSubstitute) hsubstitute

section
variable {environment : List (String × String)} {base settings : Settings}

theorem toValue_of_overlay (h : base.overlay environment = .ok settings) (setting : Setting) :
    settings.toValue setting =
      ((environmentValue? environment setting).map setting.normal).getD (base.toValue setting) := by
  rw [toValue_of_ofValues h setting]
  cases environmentValue? environment setting with
  | none => exact base.normal_toValue setting
  | some v => rfl

theorem exists_overlay_iff :
    (∃ settings, base.overlay environment = .ok settings) ↔
      ∀ setting v, environmentValue? environment setting = some v → setting.Usable v := by
  rw [overlay, exists_ofValues_iff]
  constructor
  · intro h setting v hv
    exact h setting v (by rw [hv]; rfl)
  · intro h setting v hv
    cases henv : environmentValue? environment setting with
    | none =>
        rw [henv] at hv
        cases hv
        exact base.usable_toValue setting
    | some w =>
        rw [henv] at hv
        cases hv
        exact h setting _ henv

end

section
variable {room : Setting → Nat} {value? : Setting → Option Value}
  {environment : List (String × String)}

variable (room) in
/-- The values of both layers have to be usable, also those of the one that the other replaces. -/
theorem exists_layered_iff :
    (∃ settings, (ofValues room value? >>= overlay environment) = .ok settings) ↔
      (∀ setting v, value? setting = some v → setting.Usable v) ∧
        ∀ setting v, environmentValue? environment setting = some v → setting.Usable v := by
  rw [← exists_ofValues_iff room]
  constructor
  · rintro ⟨settings, h⟩
    obtain ⟨base, hbase, hoverlay⟩ := Except.bind_eq_ok.1 h
    exact ⟨⟨base, hbase⟩, exists_overlay_iff.1 ⟨settings, hoverlay⟩⟩
  · rintro ⟨⟨base, hbase⟩, henv⟩
    obtain ⟨settings, hoverlay⟩ := exists_overlay_iff.2 henv
    exact ⟨settings, Except.bind_eq_ok.2 ⟨base, hbase, hoverlay⟩⟩

variable (room) in
theorem exists_layered_error_iff :
    (∃ e, (ofValues room value? >>= overlay environment) = .error e) ↔
      (∃ setting v, value? setting = some v ∧ ¬ setting.Usable v) ∨
        ∃ setting v, environmentValue? environment setting = some v ∧ ¬ setting.Usable v := by
  constructor
  · rintro ⟨e, he⟩
    by_contra h
    simp only [not_or, not_exists, not_and, not_not] at h
    obtain ⟨settings, hok⟩ := (exists_layered_iff room).2 h
    cases he.symm.trans hok
  · intro h
    cases hresult : ofValues room value? >>= overlay environment with
    | error e => exact ⟨e, rfl⟩
    | ok settings =>
        obtain ⟨hfile, henv⟩ := (exists_layered_iff room).1 ⟨settings, hresult⟩
        rcases h with ⟨setting, v, hv, hnot⟩ | ⟨setting, v, hv, hnot⟩
        · exact absurd (hfile setting v hv) hnot
        · exact absurd (henv setting v hv) hnot

theorem toValue_of_layered {settings : Settings}
    (h : (ofValues room value? >>= overlay environment) = .ok settings) (setting : Setting) :
    settings.toValue setting =
      (((environmentValue? environment setting).or (value? setting)).map setting.normal).getD
        (initial.toValue setting) := by
  obtain ⟨base, hbase, hoverlay⟩ := Except.bind_eq_ok.1 h
  rw [toValue_of_overlay hoverlay setting, toValue_of_ofValues hbase setting]
  cases environmentValue? environment setting with
  | none => rfl
  | some v => rfl

theorem layered_ne_unwritten
    (h : ∀ setting v, value? setting = some v → v.HasTextIn (room setting)) (e : Value.Obstacle) :
    (ofValues room value? >>= overlay environment) ≠ .error (.unwritten e) := by
  intro herror
  rcases Except.bind_eq_error.1 herror with herror | ⟨base, -, herror⟩
  · exact ofValues_ne_unwritten h e herror
  · exact overlay_ne_unwritten environment base e herror

end

end Settings
end PluralMessage
