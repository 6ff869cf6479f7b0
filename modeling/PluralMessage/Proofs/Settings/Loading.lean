import PluralMessage.Proofs.Settings.Values
import PluralMessage.Settings.File

/-!
How loading settings fails. An error is one of the settings or of their source, but for what is not
foreseen: a path cannot be looked up, what is found there is no text, a key is no text, or a value
has to be reported and cannot be written. Besides, a reader of documents may fail in a way of its
own.
-/
namespace PluralMessage

/-- The errors of settings and of their source, which are reported in words of their own. -/
def LoadError.IsOwn : LoadError → Prop
  | settings (.unwritten _) | content _ => False
  | settings _ | source _ => True

theorem LoadError.isOwn_settings {e : SettingsError} :
    (settings e).IsOwn ↔ ∀ obstacle, e ≠ .unwritten obstacle := by
  cases e <;> simp [IsOwn]

namespace Settings

/-- What is found cannot be looked up, and not because nothing is there, or it is no text. -/
inductive Unreadable : Found → Prop
  | lookup {e : SystemError} (h : e.meansAbsent = false) : Unreadable (.failed e)
  | bytes {bytes : List UInt8} (h : decode bytes = none) : Unreadable (.file bytes)

/-- A text is not read as a document, for another reason than that it is malformed. -/
inductive Misread (host : Host) (path : List Char) : Found → Prop
  | document {bytes : List UInt8} {text : List Char} {format : Format} {e : Document.ReadError}
      (text_eq : decode bytes = some text)
      (format_eq : Format.ofSuffix? (Path.format path) = some format)
      (h : host.read format text = .error e) (hne : e ≠ .malformed) : Misread host path (.file bytes)

/-- The value that a document gives to a setting. -/
def given (document : Document) (entries : List (Value × Document.Item)) (setting : Setting) :
    Option Value :=
  (Entries.get? Value.sameKey entries (.text setting.name)).map document.value

/-- A key is no text, or something is in the way of writing the first value that is not usable. -/
def UnforeseenValues (room : Setting → Nat) (keys : List Value)
    (value? : Setting → Option Value) : Prop :=
  (∃ key ∈ keys, key.isText = false) ∨
    ∃ setting v, FirstUnusable value? setting v ∧ v.obstacle? (room setting) ≠ none

/-- What is found under a path and loading does not provide for. -/
inductive Unforeseen (host : Host) (path : List Char) (found : Found) : Prop
  | unreadable (h : Unreadable found)
  | values {document : Document} {entries : List (Value × Document.Item)}
      (document_eq : readFile host path found = .ok document)
      (entries_eq : sectionOf path document = .ok entries)
      (h : UnforeseenValues host.room (entries.map Prod.fst) (given document entries))

section
variable {host : Host} {path : List Char} {found : Found}

theorem not_misread (h : host.Documented) : ¬ Misread host path found := by
  rintro ⟨-, -, hread, hne⟩
  exact hne (h _ _ _ hread)

theorem exists_readFile_error_iff :
    (∃ e, readFile host path found = .error e ∧ ¬ e.IsOwn) ↔
      Unreadable found ∨ Misread host path found := by
  constructor
  · rintro ⟨e, h, he⟩
    cases found with
    | nothing | closed | directory =>
        cases h
        exact absurd trivial he
    | failed cause =>
        simp only [readFile] at h
        split at h
        · cases h
          exact absurd trivial he
        · rename_i hcause
          exact .inl (.lookup (Bool.eq_false_iff.2 hcause))
    | file bytes =>
        simp only [readFile] at h
        split at h
        · rename_i hbytes
          exact .inl (.bytes hbytes)
        · cases h
          exact absurd trivial he
        · rename_i text format htext hformat
          split at h
          · cases h
          · cases h
            exact absurd trivial he
          · rename_i hread
            exact .inr (.document htext hformat hread (by simp))
          · rename_i hread
            exact .inr (.document htext hformat hread (by simp))
          · rename_i hread
            exact .inr (.document htext hformat hread (by simp))
  · rintro (h | h)
    · cases h with
      | @lookup cause h =>
          exact ⟨.content (.system cause (Path.normalize path)), by simp [readFile, h], id⟩
      | bytes h => exact ⟨.content .notText, by simp [readFile, h], id⟩
    · obtain @⟨bytes, text, format, e, htext, hformat, h, hne⟩ := h
      cases e with
      | malformed => exact absurd rfl hne
      | tooLong e => exact ⟨.content (.tooLong e), by simp [readFile, htext, hformat, h], id⟩
      | tooDeep e => exact ⟨.content (.tooDeep e), by simp [readFile, htext, hformat, h], id⟩
      | noValue e => exact ⟨.content (.noValue e), by simp [readFile, htext, hformat, h], id⟩

end

theorem isOwn_of_sectionOf {path : List Char} {document : Document} {e : LoadError}
    (h : sectionOf path document = .error e) : e.IsOwn := by
  unfold sectionOf at h
  split at h
  · cases h
    trivial
  · split at h
    · cases h
    · split at h
      · cases h
      · cases h
        trivial

/-! Keys. -/

theorem sameKey_text_of_not_isText {key : Value} (h : key.isText = false) (s : String) :
    key.sameKey (.text s) = false := by
  cases key with
  | text t => cases h
  | real x =>
      simp only [Value.sameKey, Value.quantity?]
      split
      · rename_i hnone
        cases hnone
      · rfl
  | _ => rfl

/-- A key that is no text names no setting. -/
theorem mem_otherKeys {keys : List Value} {key : Value} (hmem : key ∈ keys)
    (h : key.isText = false) : key ∈ otherKeys keys := by
  refine List.mem_filter.2 ⟨hmem, ?_⟩
  simp [sameKey_text_of_not_isText h]

theorem exists_checkOtherKeys_error_iff {keys : List Value} :
    (∃ e, checkOtherKeys keys = .error e) ↔ ∃ key ∈ keys, key.isText = false := by
  simp only [checkOtherKeys, List.partition_eq_filter_filter]
  constructor
  · rintro ⟨e, h⟩
    split at h
    · cases h
    · rename_i first more hothers
      have hfirst : first ∈ keys.filter (not ∘ Value.isText) := by
        rw [hothers]
        exact List.mem_cons_self
      obtain ⟨hmem, hkey⟩ := List.mem_filter.1 hfirst
      exact ⟨first, hmem, by simpa using hkey⟩
  · rintro ⟨key, hmem, hkey⟩
    have hother : key ∈ keys.filter (not ∘ Value.isText) :=
      List.mem_filter.2 ⟨hmem, by simp [hkey]⟩
    split
    · rename_i hnil
      rw [hnil] at hother
      cases hother
    · split
      · exact ⟨_, rfl⟩
      · exact ⟨_, rfl⟩

theorem exists_ofKeys_error_iff {room : Setting → Nat} {keys : List Value}
    {value? : Setting → Option Value} :
    (∃ e, ofKeys room keys value? = .error e ∧ ¬ e.IsOwn) ↔
      UnforeseenValues room keys value? := by
  constructor
  · rintro ⟨e, h, he⟩
    rcases Except.bind_eq_error.1 h with h | ⟨⟨⟩, -, h⟩
    · obtain ⟨cause, hcause, -⟩ := Except.mapError_eq_error.1 h
      obtain ⟨key, hmem, hkey⟩ := exists_checkOtherKeys_error_iff.1 ⟨cause, hcause⟩
      exact .inl ⟨key, (List.mem_filter.1 hmem).1, hkey⟩
    · obtain ⟨cause, hcause, rfl⟩ := Except.mapError_eq_error.1 h
      obtain ⟨obstacle, rfl⟩ : ∃ obstacle, cause = .unwritten obstacle := by
        simpa [LoadError.isOwn_settings] using he
      obtain ⟨setting, v, hfirst, hobstacle⟩ := ofValues_eq_unwritten_iff.1 hcause
      exact .inr ⟨setting, v, hfirst, by simp [hobstacle]⟩
  · intro h
    -- Keys are looked at first: without a bad one, the values decide.
    cases hcheck : checkOtherKeys (otherKeys keys) with
    | error cause =>
        refine ⟨.content cause, ?_, id⟩
        simp [ofKeys, hcheck, Except.mapError, bind, Except.bind]
    | ok u =>
        rcases h with ⟨key, hmem, hkey⟩ | ⟨setting, v, hfirst, hobstacle⟩
        · obtain ⟨cause, hcause⟩ :=
            exists_checkOtherKeys_error_iff.2 ⟨key, mem_otherKeys hmem hkey, hkey⟩
          rw [hcheck] at hcause
          cases hcause
        · obtain ⟨obstacle, hobstacle⟩ := Option.ne_none_iff_exists'.1 hobstacle
          refine ⟨.settings (.unwritten obstacle), ?_, id⟩
          have hvalues := ofValues_eq_unwritten_iff.2 ⟨setting, v, hfirst, hobstacle⟩
          simp [ofKeys, hcheck, hvalues, Except.mapError, bind, Except.bind]

theorem ofKeys_of_isText {keys : List Value} (h : ∀ key ∈ keys, key.isText = true)
    (room : Setting → Nat) (value? : Setting → Option Value) :
    ofKeys room keys value? = (ofValues room value?).mapError .settings := by
  have hcheck : checkOtherKeys (otherKeys keys) = .ok () := by
    cases hcheck : checkOtherKeys (otherKeys keys) with
    | ok u => rfl
    | error e =>
        obtain ⟨key, hkey, hnot⟩ := exists_checkOtherKeys_error_iff.1 ⟨e, hcheck⟩
        rw [h key (List.mem_filter.1 hkey).1] at hnot
        cases hnot
  simp only [ofKeys, hcheck, Except.mapError, bind, Except.bind]

/-! Files. -/

theorem load_some (host : Host) (path : List Char) (found : Found)
    (environment : List (String × String)) :
    load host (some (path, found)) environment = (do
      let document ← readFile host path found
      let entries ← sectionOf path document
      let base ← ofKeys host.room (entries.map Prod.fst) (given document entries)
      (base.overlay environment).mapError .settings) := by
  simp only [load, ofDocument]
  cases readFile host path found with
  | error e => rfl
  | ok document =>
      cases hsection : sectionOf path document with
      | error e => simp only [hsection, bind, Except.bind]
      | ok entries =>
          simp only [hsection, bind, Except.bind]
          rfl

theorem isOwn_of_overlay {base : Settings} {environment : List (String × String)} {e : LoadError}
    (h : (base.overlay environment).mapError .settings = .error e) : e.IsOwn := by
  obtain ⟨cause, hcause, rfl⟩ := Except.mapError_eq_error.1 h
  rw [LoadError.isOwn_settings]
  rintro obstacle rfl
  exact overlay_ne_unwritten environment base obstacle hcause

/-- Loading fails with an error that is not its own where something is not foreseen or a document is
misread, and only there, whatever the environment says. -/
theorem exists_load_error_iff {host : Host} {path : List Char} {found : Found}
    {environment : List (String × String)} :
    (∃ e, load host (some (path, found)) environment = .error e ∧ ¬ e.IsOwn) ↔
      Unforeseen host path found ∨ Misread host path found := by
  rw [load_some]
  constructor
  · rintro ⟨e, h, he⟩
    rcases Except.bind_eq_error.1 h with h | ⟨document, hdocument, h⟩
    · exact (exists_readFile_error_iff.1 ⟨e, h, he⟩).imp_left .unreadable
    rcases Except.bind_eq_error.1 h with h | ⟨entries, hentries, h⟩
    · exact absurd (isOwn_of_sectionOf h) he
    rcases Except.bind_eq_error.1 h with h | ⟨base, -, h⟩
    · exact .inl (.values hdocument hentries (exists_ofKeys_error_iff.1 ⟨e, h, he⟩))
    · exact absurd (isOwn_of_overlay h) he
  · intro h
    have hread : Unreadable found ∨ Misread host path found →
        ∃ e, readFile host path found = .error e ∧ ¬ e.IsOwn := exists_readFile_error_iff.2
    rcases h with (h | @⟨document, entries, hdocument, hentries, h⟩) | h
    · obtain ⟨e, h, he⟩ := hread (.inl h)
      exact ⟨e, Except.bind_eq_error.2 (.inl h), he⟩
    · obtain ⟨e, h, he⟩ := exists_ofKeys_error_iff.2 h
      refine ⟨e, ?_, he⟩
      simp only [hdocument, hentries, h, bind, Except.bind]
    · obtain ⟨e, h, he⟩ := hread (.inr h)
      exact ⟨e, Except.bind_eq_error.2 (.inl h), he⟩

end Settings
end PluralMessage
