import PluralMessage.Command.Run
import PluralMessage.Proofs.Settings.Loading
import PluralMessage.Settings.Standard

/-!
How commands end when their settings cannot be loaded. An error of the settings or of their source
is reported on a line and ends the command with the exit code 1; a command breaks off at what
loading does not provide for. A command line that names a file which may not be read is refused.
-/
namespace PluralMessage
open Settings (Misread Unforeseen load)

namespace Command

/-- The commands that load settings. -/
def LoadsSettings : Command → Prop
  | choose .. | lint .. => True
  | _ => False

/-- A text without escape characters is written as it is. -/
theorem plainFrom_append {s : List Char} (h : '\x1b' ∉ s) (t : List Char) :
    plainFrom 0 (s ++ t) = s ++ plainFrom 0 t := by
  induction s with
  | nil => rfl
  | cons c s ih =>
      have hc : c ≠ '\x1b' := fun hc => h (by simp [hc])
      rw [List.cons_append, plainFrom, if_neg hc, ih fun hs => h (List.mem_cons_of_mem c hs),
        List.cons_append]

theorem failure_eq (message : String) :
    Outcome.failure message = .finished 1 [] ("Error: ".toList ++ line message.toList) := by
  have hline : line ("Error: " ++ message).toList = "Error: ".toList ++ line message.toList := by
    rw [line, String.toList_append, plainFrom_append (by decide), List.append_assoc, line]
  rw [Outcome.failure, hline]

theorem ofLoadError_of_isOwn {e : LoadError} (h : e.IsOwn) :
    ∃ message, Outcome.ofLoadError e = .failure message := by
  cases e with
  | settings e =>
      cases e with
      | unwritten e => exact h.elim
      | locale s | level s | substitute s => exact ⟨_, rfl⟩
  | source e => exact ⟨_, rfl⟩
  | content e => exact h.elim

theorem ofLoadError_of_not_isOwn {e : LoadError} (h : ¬ e.IsOwn) :
    ∃ cause, Outcome.ofLoadError e = .brokenOff cause := by
  cases e with
  | settings e =>
      cases e with
      | unwritten e => exact ⟨_, rfl⟩
      | locale s | level s | substitute s => exact absurd trivial h
  | source e => exact absurd trivial h
  | content e => exact ⟨e, rfl⟩

section
variable {host : Host} {command : Command} {find : List Char → Found}
  {environment : List (String × String)} {e : LoadError}

theorem run_of_load_error (hload : command.LoadsSettings)
    (h : load host (command.source find) environment = .error e) :
    command.run host find environment = Outcome.ofLoadError e := by
  cases command with
  | choose | lint => simp only [run, withSettings, h]
  | interval | form | locales => exact hload.elim

/-- A file that may not be read cannot be loaded, which is an error of the source. -/
theorem isOwn_of_namesClosed (hclosed : command.namesClosed find = true)
    (h : load host (command.source find) environment = .error e) : e.IsOwn := by
  unfold namesClosed at hclosed
  split at hclosed
  · rename_i hsource
    rw [hsource] at h
    cases h
    trivial
  · cases hclosed

theorem runLine_of_read {arguments : List (List Char)} (h : read arguments = .ok command) :
    runLine host arguments find environment =
      if command.namesClosed find then .refused .closedPath
      else command.run host find environment := by
  simp only [runLine, h, Outcome.ofUsageError]

/-- The line on which a command reports an error of its settings or their source. -/
theorem exists_report (hload : command.LoadsSettings)
    (h : load host (command.source find) environment = .error e) (he : e.IsOwn) :
    ∃ message, command.run host find environment =
      .finished 1 [] ("Error: ".toList ++ line message) := by
  obtain ⟨message, hmessage⟩ := ofLoadError_of_isOwn he
  exact ⟨message.toList, by rw [run_of_load_error hload h, hmessage, failure_eq]⟩

theorem exists_brokenOff (hload : command.LoadsSettings)
    (h : load host (command.source find) environment = .error e) (he : ¬ e.IsOwn) :
    ∃ cause, command.run host find environment = .brokenOff cause := by
  rw [run_of_load_error hload h]
  exact ofLoadError_of_not_isOwn he

end

end Command

/-- Settings that are loaded are usable. Loading fails with an error of the settings or their source
unless something is not foreseen or a document is misread, which does not happen to readers that
find fault with nothing but malformed texts. Such an error is what a command that loads settings
reports before it ends with the exit code 1; otherwise it breaks off. A command line ends like its
command, but for a file that may not be read, with which it is refused. -/
theorem loading_outcomes (host : Host) (environment : List (String × String))
    (find : List Char → Found) :
    (∀ source settings, load host source environment = .ok settings →
      ∃ l b n, settings.toEntries =
          [(.text "default_locale", .text l), (.text "apply_replacements", .bool b),
            (.text "log_level", .text n)] ∧
        Text.isBlankString l = false ∧ n ∈ LogLevel.all.map LogLevel.name) ∧
    (∀ e, load host none environment = .error e → e.IsOwn) ∧
    (∀ path, (∃ e, load host (some (path, find path)) environment = .error e ∧ ¬ e.IsOwn) ↔
      Unforeseen host path (find path) ∨ Misread host path (find path)) ∧
    (host.Documented →
      ∀ path, (∃ e, load host (some (path, find path)) environment = .error e ∧ ¬ e.IsOwn) ↔
        Unforeseen host path (find path)) ∧
    (∀ command : Command, command.LoadsSettings → ∀ e,
      load host (command.source find) environment = .error e →
        (e.IsOwn → ∃ message, command.run host find environment =
          .finished 1 [] ("Error: ".toList ++ Command.line message)) ∧
        (¬ e.IsOwn → ∃ cause, command.run host find environment = .brokenOff cause)) ∧
    ∀ arguments command, Command.read arguments = .ok command → command.LoadsSettings → ∀ e,
      load host (command.source find) environment = .error e →
        (e.IsOwn → if command.namesClosed find
          then Command.runLine host arguments find environment = .refused .closedPath
          else ∃ message, Command.runLine host arguments find environment =
            .finished 1 [] ("Error: ".toList ++ Command.line message)) ∧
        (¬ e.IsOwn → ∃ cause, Command.runLine host arguments find environment =
          .brokenOff cause) := by
  refine ⟨?_, ?_, ?_, ?_, ?_, ?_⟩
  · intro source settings _
    exact ⟨settings.locale, settings.substitute, settings.level.name, rfl,
      settings.locale_not_blank, List.mem_map.2 ⟨_, LogLevel.mem_all _, rfl⟩⟩
  · intro e h
    exact Settings.isOwn_of_overlay h
  · intro path
    exact Settings.exists_load_error_iff
  · intro hdocumented path
    rw [Settings.exists_load_error_iff]
    exact or_iff_left (Settings.not_misread hdocumented)
  · intro command hload e h
    exact ⟨Command.exists_report hload h, Command.exists_brokenOff hload h⟩
  · intro arguments command hread hload e h
    rw [Command.runLine_of_read hread]
    cases hclosed : command.namesClosed find with
    | true =>
        refine ⟨fun _ => rfl, fun he => ?_⟩
        exact absurd (Command.isOwn_of_namesClosed hclosed h) he
    | false =>
        exact ⟨Command.exists_report hload h, Command.exists_brokenOff hload h⟩

/-- A byte that starts no character, a number as a key, and a directory that may not be searched. -/
theorem loading_outcomes_broken_off :
    load .standard (some ("c.json".toList, .file [0xff])) [] = .error (.content .notText) ∧
      load .standard (some ("c.yaml".toList, .file "1: 2\n".toUTF8.data.toList)) [] =
        .error (.content (.keyNotText "int")) ∧
      load .standard (some ("d/c.yaml".toList, .failed ⟨13, "Permission denied"⟩)) [] =
        .error (.content (.system ⟨13, "Permission denied"⟩ "d/c.yaml".toList)) ∧
      ¬ (LoadError.content .notText).IsOwn ∧
      ¬ (LoadError.content (.keyNotText "int")).IsOwn ∧
      ¬ (LoadError.content (.system ⟨13, "Permission denied"⟩ "d/c.yaml".toList)).IsOwn := by
  refine ⟨?_, ?_, ?_, id, id, id⟩
  · decide +kernel
  · decide +kernel
  · decide +kernel

end PluralMessage
