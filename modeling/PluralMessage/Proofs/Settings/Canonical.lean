import PluralMessage.Proofs.Settings.Loading
import PluralMessage.Proofs.Settings.Overlay
import PluralMessage.Settings.Standard

/-!
Settings from mappings, in canonical form. Of a mapping whose keys are texts, only the entries under
the names of settings count, in whatever order they come. Settings that were read are settled: they
are read again from their own entries, and the environment that was put on top of them once changes
nothing when it is put there again.
-/
namespace PluralMessage

/-- In entries with distinct keys, an item is found under a key if and only if it stands there. -/
theorem Entries.get?_eq_some_iff {κ ν : Type} {same : κ → κ → Bool} {key : κ}
    (hsame : ∀ k, same k key = true ↔ k = key) {entries : List (κ × ν)}
    (h : (entries.map Prod.fst).Nodup) {item : ν} :
    get? same entries key = some item ↔ (key, item) ∈ entries := by
  induction entries with
  | nil => simp [get?]
  | cons entry entries ih =>
      obtain ⟨k, v⟩ := entry
      obtain ⟨hnot, hnodup⟩ := List.nodup_cons.1 h
      by_cases hk : k = key
      · subst hk
        have habsent : (k, item) ∉ entries := fun hmem => hnot (List.mem_map.2 ⟨_, hmem, rfl⟩)
        simp [get?, (hsame k).2 rfl, habsent, eq_comm]
      · have hfalse : same k key = false := Bool.eq_false_iff.2 fun htrue => hk ((hsame k).1 htrue)
        rw [List.mem_cons, ← ih hnodup]
        simp [get?, hfalse, Ne.symm hk]

theorem Value.sameKey_text_iff {key : Value} {s : String} :
    key.sameKey (.text s) = true ↔ key = .text s := by
  constructor
  · intro h
    cases hkey : key.isText with
    | false =>
        rw [Settings.sameKey_text_of_not_isText hkey] at h
        cases h
    | true =>
        cases key with
        | text t => rw [eq_of_beq h]
        | _ => cases hkey
  · rintro rfl
    exact beq_self_eq_true s

/-- A mapping whose keys are texts: no key comes twice. -/
structure TextKeyed (entries : List (Value × Value)) : Prop where
  isText : ∀ key ∈ entries.map Prod.fst, key.isText = true
  nodup : (entries.map Prod.fst).Nodup

namespace Settings

/-! Entries as they are given. -/

/-- The entry is under the name of a setting. -/
def namesSetting (entry : Value × Value) : Bool :=
  Setting.all.any fun setting => entry.1.sameKey (.text setting.name)

theorem namesSetting_name (setting : Setting) (v : Value) :
    namesSetting (.text setting.name, v) = true := by
  refine List.any_eq_true.2 ⟨setting, ?_, Value.sameKey_text_iff.2 rfl⟩
  cases setting <;> decide

section
variable {room : Setting → Nat} {entries others : List (Value × Value)}

theorem entry?_eq_some_iff (h : TextKeyed entries) {name : String} {v : Value} :
    Value.entry? entries name = some v ↔ (.text name, v) ∈ entries :=
  Entries.get?_eq_some_iff (fun _ => Value.sameKey_text_iff) h.nodup

theorem ofEntries_of_textKeyed (h : TextKeyed entries) :
    ofEntries room entries =
      (ofValues room fun setting => Value.entry? entries setting.name).mapError .settings :=
  ofKeys_of_isText h.isText room _

/-- What is read depends on nothing but the entries under the names of settings. -/
theorem ofEntries_congr (h : TextKeyed entries) (ho : TextKeyed others)
    (hperm : (others.filter namesSetting).Perm (entries.filter namesSetting)) :
    ofEntries room others = ofEntries room entries := by
  have hvalue : ∀ setting : Setting,
      Value.entry? others setting.name = Value.entry? entries setting.name := by
    intro setting
    ext v
    have hmem : (.text setting.name, v) ∈ others.filter namesSetting ↔
        (.text setting.name, v) ∈ entries.filter namesSetting := hperm.mem_iff
    simp only [List.mem_filter, namesSetting_name, and_true] at hmem
    rw [entry?_eq_some_iff ho, entry?_eq_some_iff h, hmem]
  rw [ofEntries_of_textKeyed ho, ofEntries_of_textKeyed h, funext hvalue]

/-- Entries whose values have texts are read as settings, or one of the values is reported. -/
theorem ofEntries_ok_or_report (h : TextKeyed entries)
    (hvalues : ∀ entry ∈ entries, ∀ setting, entry.2.HasTextIn (room setting)) :
    (∃ settings, ofEntries room entries = .ok settings) ∨
      ∃ e, (∀ obstacle, e ≠ .unwritten obstacle) ∧
        ofEntries room entries = .error (.settings e) := by
  rw [ofEntries_of_textKeyed h]
  cases hread : ofValues room fun setting => Value.entry? entries setting.name with
  | ok settings => exact .inl ⟨settings, rfl⟩
  | error e =>
      refine .inr ⟨e, ?_, rfl⟩
      rintro obstacle rfl
      refine ofValues_ne_unwritten (fun setting v hv => ?_) obstacle hread
      exact hvalues _ ((entry?_eq_some_iff h).1 hv) setting

end

/-! Settings that were read. -/

theorem toValue_injective {a b : Settings}
    (h : ∀ setting, a.toValue setting = b.toValue setting) : a = b := by
  obtain ⟨locale, substitute, level, hlocale⟩ := a
  obtain ⟨locale', substitute', level', hlocale'⟩ := b
  obtain rfl : locale = locale' := Value.text.inj (h .locale)
  obtain rfl : substitute = substitute' := Value.bool.inj (h .substitute)
  have hname : level.name = level'.name := Value.text.inj (h .level)
  obtain rfl : level = level' := by
    revert hname
    cases level <;> cases level' <;> decide
  rfl

/-- Values that stay as they are when settings are read from them make these settings. -/
theorem ofValues_eq_ok {room : Setting → Nat} {value? : Setting → Option Value}
    {settings : Settings}
    (husable : ∀ setting v, value? setting = some v → setting.Usable v)
    (h : ∀ setting, ((value? setting).map setting.normal).getD (initial.toValue setting) =
      settings.toValue setting) : ofValues room value? = .ok settings := by
  obtain ⟨read, hread⟩ := (exists_ofValues_iff room).2 husable
  rw [hread, toValue_injective fun setting => (toValue_of_ofValues hread setting).trans (h setting)]

theorem textKeyed_toEntries (settings : Settings) : TextKeyed settings.toEntries where
  isText := by simp [toEntries, Setting.all, Value.isText]
  nodup := by simp [toEntries, Setting.all, Setting.name]

theorem entry?_toEntries (settings : Settings) (setting : Setting) :
    Value.entry? settings.toEntries setting.name = some (settings.toValue setting) := by
  refine (entry?_eq_some_iff settings.textKeyed_toEntries).2 (List.mem_map.2 ⟨setting, ?_, rfl⟩)
  cases setting <;> decide

theorem ofEntries_toEntries (room : Setting → Nat) (settings : Settings) :
    ofEntries room settings.toEntries = .ok settings := by
  have hread : ofValues room (fun setting => Value.entry? settings.toEntries setting.name) =
      .ok settings := by
    simp only [entry?_toEntries]
    refine ofValues_eq_ok ?_ settings.normal_toValue
    rintro setting v ⟨⟩
    exact settings.usable_toValue setting
  rw [ofEntries_of_textKeyed settings.textKeyed_toEntries, hread]
  rfl

/-- What the environment put in place is put there again, and the rest is in normal form. -/
theorem overlay_of_overlay {environment : List (String × String)} {base settings : Settings}
    (h : base.overlay environment = .ok settings) :
    settings.overlay environment = .ok settings := by
  obtain ⟨again, hagain⟩ := exists_overlay_iff.2 (exists_overlay_iff.1 ⟨settings, h⟩)
  have hsame : again = settings := toValue_injective fun setting => by
    rw [toValue_of_overlay hagain, toValue_of_overlay h]
    cases environmentValue? environment setting <;> rfl
  rw [hagain, hsame]

theorem overlay_overlay (environment : List (String × String)) (base : Settings) :
    (base.overlay environment >>= overlay environment) = base.overlay environment := by
  cases h : base.overlay environment with
  | error e => rfl
  | ok settings => exact overlay_of_overlay h

/-- A mapping with texts as keys is read as settings, or one of its values is reported. Neither the
order of its entries nor those under other names than the settings' make a difference. Settings that
are read are read again from their own entries, and overlaid twice by an environment as overlaid
once. -/
theorem ofEntries_canonical {room : Setting → Nat} {entries : List (Value × Value)}
    (hkeys : TextKeyed entries)
    (hvalues : ∀ entry ∈ entries, ∀ setting, entry.2.HasTextIn (room setting)) :
    ((∃ settings, ofEntries room entries = .ok settings) ∨
      ∃ e, (∀ obstacle, e ≠ .unwritten obstacle) ∧
        ofEntries room entries = .error (.settings e)) ∧
    (∀ others, TextKeyed others →
      (others.filter namesSetting).Perm (entries.filter namesSetting) →
      ofEntries room others = ofEntries room entries) ∧
    ∀ settings, ofEntries room entries = .ok settings →
      ofEntries room settings.toEntries = .ok settings ∧
      ∀ environment, (settings.overlay environment >>= overlay environment) =
        settings.overlay environment := by
  refine ⟨ofEntries_ok_or_report hkeys hvalues, ?_, ?_⟩
  · intro others ho hperm
    exact ofEntries_congr hkeys ho hperm
  · intro settings _
    exact ⟨ofEntries_toEntries room settings, fun environment => overlay_overlay environment settings⟩

/-- Entries in another order than that of the settings, one of them under the name of none. -/
def mixedEntries : List (Value × Value) :=
  [(.text "log_level", .text "ınfo"), (.text "theme", .list [.null]),
    (.text "apply_replacements", .int 1), (.text "default_locale", .text "ru")]

def plainEntries : List (Value × Value) :=
  [(.text "default_locale", .text "ru"), (.text "apply_replacements", .int 1),
    (.text "log_level", .text "ınfo")]

theorem textKeyed_mixedEntries : TextKeyed mixedEntries where
  isText := by simp [mixedEntries, Value.isText]
  nodup := by simp [mixedEntries]

theorem textKeyed_plainEntries : TextKeyed plainEntries where
  isText := by simp [plainEntries, Value.isText]
  nodup := by simp [plainEntries]

theorem hasTextIn_mixedEntries :
    ∀ entry ∈ mixedEntries, ∀ setting, entry.2.HasTextIn (Host.standard.room setting) := by
  intro entry hentry setting
  rw [Value.hasTextIn_iff]
  simp only [mixedEntries, List.mem_cons, List.not_mem_nil, or_false] at hentry
  rcases hentry with rfl | rfl | rfl | rfl <;> cases setting <;> rfl

theorem filter_plainEntries_perm :
    (plainEntries.filter namesSetting).Perm (mixedEntries.filter namesSetting) := by
  have hmixed : mixedEntries.filter namesSetting = plainEntries.reverse := by rfl
  have hplain : plainEntries.filter namesSetting = plainEntries := by rfl
  rw [hmixed, hplain]
  exact (List.reverse_perm plainEntries).symm

theorem ofEntries_canonical_mixed :
    (TextKeyed mixedEntries ∧
        (∀ entry ∈ mixedEntries, ∀ setting, entry.2.HasTextIn (Host.standard.room setting)) ∧
        TextKeyed plainEntries ∧
        (plainEntries.filter namesSetting).Perm (mixedEntries.filter namesSetting)) ∧
      ∃ settings, settings.level = .info ∧
        ofEntries Host.standard.room mixedEntries = .ok settings ∧
        ofEntries Host.standard.room plainEntries = .ok settings ∧
        ofEntries Host.standard.room settings.toEntries = .ok settings := by
  obtain ⟨-, hsame, hread⟩ := ofEntries_canonical textKeyed_mixedEntries hasTextIn_mixedEntries
  have hmixed : ofEntries Host.standard.room mixedEntries =
      .ok ⟨"ru", true, .info, by decide⟩ := by rfl
  have hplain := hsame plainEntries textKeyed_plainEntries filter_plainEntries_perm
  refine ⟨⟨textKeyed_mixedEntries, hasTextIn_mixedEntries, textKeyed_plainEntries,
    filter_plainEntries_perm⟩, _, rfl, hmixed, hplain.trans hmixed, ?_⟩
  exact (hread _ hmixed).1

end Settings
end PluralMessage
