import PluralMessage.Proofs.Settings.Loading
import PluralMessage.Proofs.Settings.Overlay
import PluralMessage.Settings.Standard

/-!
Settings in layers. Of a file that holds a mapping, every setting is what the environment says, else
what the file says, else what it is initially; and no layer may hold a value that is not usable.
-/
namespace PluralMessage.Settings

/-- The entries of a document that hold settings: those of its section, or all of them if it has no
section. -/
inductive HoldsSettings (document : Document) : List (Value × Document.Item) → Prop
  | whole {entries : List (Value × Document.Item)}
      (entries_eq : document.entries? document.root = some entries)
      (absent : Entries.get? Value.sameKey entries (.text sectionName) = none) :
      HoldsSettings document entries
  | inner {outer entries : List (Value × Document.Item)} {item : Document.Item}
      (outer_eq : document.entries? document.root = some outer)
      (present : Entries.get? Value.sameKey outer (.text sectionName) = some item)
      (entries_eq : document.entries? item = some entries) : HoldsSettings document entries

section
variable {host : Host} {path : List Char} {found : Found} {document : Document}
  {entries : List (Value × Document.Item)}

theorem sectionOf_of_holdsSettings (h : HoldsSettings document entries) (path : List Char) :
    sectionOf path document = .ok entries := by
  cases h with
  | whole hentries habsent => simp only [sectionOf, hentries, habsent]
  | inner houter hpresent hentries => simp only [sectionOf, houter, hpresent, hentries]

/-- Loading puts the environment on top of the values of the file. -/
theorem load_of_holdsSettings (hread : readFile host path found = .ok document)
    (hentries : HoldsSettings document entries) (hkeys : ∀ entry ∈ entries, entry.1.isText = true)
    (environment : List (String × String)) :
    load host (some (path, found)) environment =
      (ofValues host.room (given document entries) >>= overlay environment).mapError
        .settings := by
  have htexts : ∀ key ∈ entries.map Prod.fst, key.isText = true := by
    intro key hkey
    obtain ⟨entry, hentry, rfl⟩ := List.mem_map.1 hkey
    exact hkeys entry hentry
  calc load host (some (path, found)) environment
      = (do
          let base ← ofKeys host.room (entries.map Prod.fst) (given document entries)
          (base.overlay environment).mapError .settings) := by
        rw [load_some, hread]
        simp only [bind, Except.bind, sectionOf_of_holdsSettings hentries]
    _ = (ofValues host.room (given document entries) >>= overlay environment).mapError
          .settings := by
        rw [ofKeys_of_isText htexts]
        cases ofValues host.room (given document entries) <;> rfl

/-- Loading fails if and only if a value of the file or of the environment is not usable, also where
the environment overrides the file. Otherwise every setting is, in its normal form, what the
environment says, else what the file says, else what it is initially; so a setting that the
environment leaves out is what the file alone makes it. -/
theorem load_layers (hread : readFile host path found = .ok document)
    (hentries : HoldsSettings document entries) (hkeys : ∀ entry ∈ entries, entry.1.isText = true)
    (hvalues : ∀ setting v, given document entries setting = some v →
      v.HasTextIn (host.room setting)) (environment : List (String × String)) :
    ((∃ e, load host (some (path, found)) environment = .error e ∧ e.IsOwn) ↔
      (∃ setting v, given document entries setting = some v ∧ ¬ setting.Usable v) ∨
        ∃ setting v, environmentValue? environment setting = some v ∧ ¬ setting.Usable v) ∧
    ((∀ setting v, given document entries setting = some v → setting.Usable v) →
      (∀ setting v, environmentValue? environment setting = some v → setting.Usable v) →
      ∃ settings alone, load host (some (path, found)) environment = .ok settings ∧
        load host (some (path, found)) [] = .ok alone ∧
        ∀ setting,
          settings.toValue setting =
            (((environmentValue? environment setting).or (given document entries setting)).map
              setting.normal).getD (initial.toValue setting) ∧
          (environmentValue? environment setting = none →
            settings.toValue setting = alone.toValue setting)) := by
  simp only [load_of_holdsSettings hread hentries hkeys]
  constructor
  · rw [← exists_layered_error_iff host.room]
    constructor
    · rintro ⟨e, he, -⟩
      obtain ⟨cause, hcause, -⟩ := Except.mapError_eq_error.1 he
      exact ⟨cause, hcause⟩
    · rintro ⟨cause, hcause⟩
      refine ⟨.settings cause, Except.mapError_eq_error.2 ⟨cause, hcause, rfl⟩, ?_⟩
      rw [LoadError.isOwn_settings]
      rintro obstacle rfl
      exact layered_ne_unwritten hvalues obstacle hcause
  · intro hfile henv
    have hempty : ∀ setting v, environmentValue? [] setting = some v → setting.Usable v := by
      rintro setting v ⟨⟩
    obtain ⟨settings, hsettings⟩ := (exists_layered_iff host.room).2 ⟨hfile, henv⟩
    obtain ⟨alone, halone⟩ := (exists_layered_iff host.room).2 ⟨hfile, hempty⟩
    refine ⟨settings, alone, by rw [hsettings]; rfl, by rw [halone]; rfl, ?_⟩
    intro setting
    refine ⟨toValue_of_layered hsettings setting, ?_⟩
    intro hnone
    rw [toValue_of_layered hsettings, toValue_of_layered halone, hnone]
    rfl

end

/-- What is read from a file that holds a text. -/
theorem readFile_of_text {host : Host} {path : List Char} {format : Format} {document : Document}
    (hformat : Format.ofSuffix? (Path.format path) = some format) {s : String}
    (h : host.read format (unifyLineEnds s.toList) = .ok document) :
    readFile host path (.file s.toUTF8.data.toList) = .ok (format.orEmpty document) := by
  have hvalid : String.fromUTF8? s.toUTF8 = some s := dif_pos s.isValidUTF8
  have hdecode : decode s.toUTF8.data.toList = some (unifyLineEnds s.toList) := by
    simp only [decode, Array.toArray_toList, hvalid, Option.map_some]
  simp only [readFile, hdecode, hformat, h]

/-- A file with a section, which leaves out the locale. -/
def site : String :=
  "\x7b\"log_level\": 3, \"transchoice\": \x7b\"log_level\": \"info\", \"apply_replacements\": \" Yes \"\x7d\x7d"

def siteFile : List Char × Found :=
  ("c.json".toList, .file site.toUTF8.data.toList)

/-- What the environment says on top of the file: one of its variables is empty. -/
def siteEnvironment : List (String × String) :=
  [("TRANSCHOICE_DEFAULT_LOCALE", "fr"), ("TRANSCHOICE_LOG_LEVEL", "")]

def siteSection : List (Value × Value) :=
  [(.text "log_level", .text "info"), (.text "apply_replacements", .text " Yes ")]

def siteEntries : List (Value × Document.Item) :=
  siteSection.map fun (key, v) => (key, .value v)

def siteDocument : Document :=
  .ofValue (.map [(.text "log_level", .int 3), (.text "transchoice", .map siteSection)])

/-- Recognises the value that the text of the file is read as. -/
def isSite : Except Document.ReadError Value → Bool
  | .ok (.map [(.text "log_level", .int 3), (.text "transchoice", .map
      [(.text "log_level", .text "info"), (.text "apply_replacements", .text " Yes ")])]) => true
  | _ => false

theorem eq_of_isSite {read : Except Document.ReadError Value} (h : isSite read = true) :
    read.map .ofValue = .ok siteDocument := by
  unfold isSite at h
  split at h
  · rfl
  · cases h

theorem readFile_site : readFile .standard siteFile.1 siteFile.2 = .ok siteDocument := by
  have hends : unifyLineEnds site.toList = site.toList := by decide
  have hjson : ∀ text, Host.standard.read .json text =
      (Document.Json.read 989 text).map .ofValue := fun _ => rfl
  have hread : Host.standard.read .json (unifyLineEnds site.toList) = .ok siteDocument := by
    rw [hends, hjson]
    exact eq_of_isSite (by decide +kernel)
  exact readFile_of_text (by decide) hread

theorem holdsSettings_site : HoldsSettings siteDocument siteEntries :=
  .inner rfl rfl rfl

theorem hasTextIn_site (setting : Setting) (v : Value)
    (h : given siteDocument siteEntries setting = some v) :
    v.HasTextIn (Host.standard.room setting) := by
  cases setting with
  | locale => cases h
  | level | substitute =>
      cases h
      exact ⟨_, rfl⟩

theorem usable_site (setting : Setting) (v : Value)
    (h : given siteDocument siteEntries setting = some v) : setting.Usable v := by
  cases setting with
  | locale => cases h
  | level =>
      cases h
      exact ⟨.info, by decide⟩
  | substitute =>
      cases h
      exact ⟨" Yes ".toList, rfl, by decide⟩

theorem usable_siteEnvironment (setting : Setting) (v : Value)
    (h : environmentValue? siteEnvironment setting = some v) : setting.Usable v := by
  cases setting with
  | locale =>
      cases h
      exact (by decide : Text.isBlankString "fr" = false)
  | level | substitute => cases h

theorem load_layers_site :
    (readFile .standard siteFile.1 siteFile.2 = .ok siteDocument ∧
        HoldsSettings siteDocument siteEntries ∧
        (∀ entry ∈ siteEntries, entry.1.isText = true) ∧
        ∀ setting v, given siteDocument siteEntries setting = some v →
          v.HasTextIn (Host.standard.room setting)) ∧
      ∃ settings, load .standard (some siteFile) siteEnvironment = .ok settings ∧
        settings.toEntries = [(.text "default_locale", .text "fr"),
          (.text "apply_replacements", .bool true), (.text "log_level", .text "INFO")] := by
  have hkeys : ∀ entry ∈ siteEntries, entry.1.isText = true := by
    simp [siteEntries, siteSection, Value.isText]
  obtain ⟨settings, alone, hload, -, hvalues⟩ :=
    (load_layers readFile_site holdsSettings_site hkeys hasTextIn_site siteEnvironment).2
      usable_site usable_siteEnvironment
  refine ⟨⟨readFile_site, holdsSettings_site, hkeys, hasTextIn_site⟩, settings, hload, ?_⟩
  simp only [toEntries, Setting.all, List.map_cons, List.map_nil, (hvalues _).1]
  rfl

end PluralMessage.Settings
