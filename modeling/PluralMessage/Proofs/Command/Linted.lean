import PluralMessage.Proofs.Command.Arguments
import PluralMessage.Proofs.Command.Loading
import PluralMessage.Proofs.Decimal
import PluralMessage.Proofs.Lint

/-!
A message that lint passes can be chosen from on the command line. Both commands load the same
settings and use the same locale, so the message has a choice for every count; and what takes the
place of placeholders has a text, as the values of pairs are texts and the count has been typed. On
a command line, the count may be negative where it stands behind a double dash.
-/
namespace PluralMessage

theorem Value.hasText_typed {typed : List Char} {n : Int} (h : Decimal.ofTyped? typed = some n) :
    (int n).HasText :=
  ⟨Decimal.ofInt n, Decimal.ofInt?_of_ofTyped? h⟩

namespace Settings

/-- The locale that is used may as well be given. -/
theorem choose_localeFor (settings : Settings) (message : List Char) (count : Int)
    (locale : Option String) :
    settings.choose message count (some (settings.localeFor locale)) =
      settings.choose message count locale := by
  simp only [choose, settings.localeFor_given (settings.localeFor_ne_empty locale)]

theorem exists_readValues {values : List (List Char × Value)}
    (h : ∀ entry ∈ values, entry.2.HasText) : ∃ read, readValues values = .ok read := by
  refine Except.exists_mapM_eq_ok fun entry hentry => ?_
  obtain ⟨s, hs⟩ := h entry hentry
  exact ⟨(entry.1, s), by simp [Value.readChars, hs, Except.map]⟩

/-- A message that has a choice has a text, if the count and the values have texts. -/
theorem exists_resolve (settings : Settings) {message : List Char} {count : Int}
    {locale : Option String} {values : List (List Char × Value)} {choice : Choice}
    (hchoice : settings.choose message count locale = .ok choice)
    (hcount : (Value.int count).HasText)
    (hvalues : ∀ entry ∈ values, entry.2.HasText) (substitute : Option Bool) :
    ∃ text, settings.resolve message count values locale substitute = .ok text := by
  obtain ⟨read, hread⟩ : ∃ read, readValues (valuesFor count values) = .ok read :=
    exists_readValues (Entries.forall_set hcount hvalues)
  simp only [resolve, hchoice, hread, bind, Except.bind]
  split
  · exact ⟨_, rfl⟩
  · exact ⟨_, rfl⟩

end Settings

namespace Command

/-- A name that is not empty, an equals sign behind it, and any value. -/
def IsPair (s : List Char) : Prop :=
  ∃ name value, name ≠ [] ∧ '=' ∉ name ∧ s = name ++ '=' :: value

theorem exists_readPair {s : List Char} (h : IsPair s) : ∃ pair, readPair s = .ok pair := by
  obtain ⟨name, value, hne, hname, rfl⟩ := h
  have hrun : ∀ c ∈ name, (c != '=') = true := by
    intro c hc
    rw [bne_iff_ne]
    rintro rfl
    exact hname hc
  have hclear : Text.Clear (· != '=') ('=' :: value) := Text.clear_cons.2 rfl
  cases name with
  | nil => exact absurd rfl hne
  | cons c name =>
      refine ⟨(c :: name, value), ?_⟩
      simp only [readPair, Text.takeWhile_run hrun hclear, Text.dropWhile_run hrun hclear]

/-- The values of pairs are texts. -/
theorem exists_readPairs {pairs : List (List Char)} (h : ∀ pair ∈ pairs, IsPair pair) :
    ∃ values, readPairs pairs = .ok values ∧ ∀ entry ∈ values, entry.2.HasText := by
  obtain ⟨read, hread⟩ := Except.exists_mapM_eq_ok fun pair hpair => exists_readPair (h pair hpair)
  refine ⟨_, Except.bind_eq_ok.2 ⟨read, hread, rfl⟩, Entries.forall_merge ?_⟩
  intro entry hentry
  obtain ⟨pair, -, rfl⟩ := List.mem_map.1 hentry
  exact Value.hasText_text _

theorem ofLoadError_ne_success (e : LoadError) (output errors : List Char) :
    Outcome.ofLoadError e ≠ .finished 0 output errors := by
  intro h
  by_cases he : e.IsOwn
  · obtain ⟨message, hmessage⟩ := ofLoadError_of_isOwn he
    rw [hmessage] at h
    cases h
  · obtain ⟨cause, hcause⟩ := ofLoadError_of_not_isOwn he
    rw [hcause] at h
    cases h

/-- A command that succeeds has loaded its settings. -/
theorem exists_of_withSettings {host : Host} {source : Option (List Char × Found)}
    {environment : List (String × String)} {run : Settings → Outcome} {output errors : List Char}
    (h : withSettings host source environment run = .finished 0 output errors) :
    ∃ settings, Settings.load host source environment = .ok settings ∧
      run settings = .finished 0 output errors := by
  unfold withSettings at h
  split at h
  · rename_i settings hload
    exact ⟨settings, hload, h⟩
  · exact absurd h (ofLoadError_ne_success _ output errors)

theorem exists_issues_of_runLint {message : List Char} {locale : Option String} {json : Bool}
    {settings : Settings} {output errors : List Char}
    (h : runLint message locale json settings = .finished 0 output errors) :
    ∃ issues, Lint.check message (settings.localeFor locale) = .ok issues ∧
      Lint.hasErrors issues = false := by
  unfold runLint at h
  split at h
  · cases h
  · rename_i issues hcheck
    refine ⟨issues, hcheck, ?_⟩
    have hcode : (if Lint.hasErrors issues then 1 else 0) = 0 := (Outcome.finished.inj h).1
    simpa using hcode

theorem exists_runChoose {message : List Char} {count : Int} {locale : Option String}
    {pairs : List (List Char)} {settings : Settings} {choice : Choice}
    (hchoice : settings.choose message count locale = .ok choice)
    (hcount : (Value.int count).HasText) (hpairs : ∀ pair ∈ pairs, IsPair pair)
    (substitute : Bool) :
    ∃ output, runChoose message count locale pairs substitute settings =
      .finished 0 output [] := by
  obtain ⟨values, hvalues, htexts⟩ := exists_readPairs hpairs
  obtain ⟨text, htext⟩ := settings.exists_resolve hchoice hcount htexts
    (if substitute || !values.isEmpty then some true else none)
  refine ⟨line text, ?_⟩
  simp only [runChoose, hvalues, htext]
  rfl

/-- Where lint passes a message, there is a choice from it, filled with the values of any pairs. -/
theorem exists_runChoose_of_runLint {message : List Char} {locale : Option String} {json : Bool}
    {settings : Settings} {output errors : List Char}
    (hlint : runLint message locale json settings = .finished 0 output errors)
    {typed : List Char} {count : Int} (hcount : Decimal.ofTyped? typed = some count)
    {pairs : List (List Char)} (hpairs : ∀ pair ∈ pairs, IsPair pair) (substitute : Bool) :
    ∃ output, runChoose message count locale pairs substitute settings =
      .finished 0 output [] := by
  obtain ⟨issues, hcheck, hclean⟩ := exists_issues_of_runLint hlint
  obtain ⟨choice, hchoice⟩ := Lint.exists_choice_of_no_errors
    (settings.localeFor_ne_empty locale) hcheck hclean settings count
  rw [settings.choose_localeFor] at hchoice
  exact exists_runChoose hchoice (Value.hasText_typed hcount) hpairs substitute

/-- When lint ends with the exit code 0, so does the choice from the same message, with the same
locale and settings, for every count that can be typed and all pairs, substituted or not. -/
theorem choose_succeeds_of_lint {host : Host} {message : List Char} {locale : Option String}
    {json : Bool} {path : Option (List Char)} {find : List Char → Found}
    {environment : List (String × String)} {output errors : List Char}
    (hlint : run host (.lint message locale json path) find environment =
      .finished 0 output errors)
    {typed : List Char} {count : Int} (hcount : Decimal.ofTyped? typed = some count)
    {pairs : List (List Char)} (hpairs : ∀ pair ∈ pairs, IsPair pair) (substitute : Bool) :
    ∃ output, run host (.choose message count locale pairs substitute path) find environment =
      .finished 0 output [] := by
  obtain ⟨settings, hload, hrun⟩ := exists_of_withSettings hlint
  obtain ⟨output, houtput⟩ := exists_runChoose_of_runLint hrun hcount hpairs substitute
  refine ⟨output, ?_⟩
  simp only [run, withSettings, source, settingsPath?] at hload ⊢
  rw [hload]
  exact houtput

theorem choose_succeeds_of_lint_apples :
    (run .standard (.lint "an apple|:n apples".toList none false none) (fun _ => .nothing) [] =
        .finished 0 "No issues found\n".toList [] ∧
      Decimal.ofTyped? " 1_0".toList = some 10 ∧ ∀ pair ∈ ["n=ten=10".toList], IsPair pair) ∧
    ∃ output, run .standard (.choose "an apple|:n apples".toList 10 none ["n=ten=10".toList] true
      none) (fun _ => .nothing) [] = .finished 0 output [] := by
  have hlint : run .standard (.lint "an apple|:n apples".toList none false none)
      (fun _ => .nothing) [] = .finished 0 "No issues found\n".toList [] := by decide
  have hcount : Decimal.ofTyped? " 1_0".toList = some 10 := by decide
  have hpairs : ∀ pair ∈ ["n=ten=10".toList], IsPair pair :=
    List.forall_mem_singleton.2 ⟨['n'], "ten=10".toList, by decide, by decide, by decide⟩
  exact ⟨⟨hlint, hcount, hpairs⟩, choose_succeeds_of_lint hlint hcount hpairs true⟩

/-! The two command lines. -/

theorem exists_run_of_runLine {host : Host} {arguments : List (List Char)}
    {find : List Char → Found} {environment : List (String × String)} {output errors : List Char}
    (h : runLine host arguments find environment = .finished 0 output errors) :
    ∃ command, read arguments = .ok command ∧ command.namesClosed find = false ∧
      run host command find environment = .finished 0 output errors := by
  cases hread : read arguments with
  | error e =>
      simp only [runLine, hread] at h
      cases e <;> cases h
  | ok command =>
      rw [runLine_of_read hread] at h
      cases hclosed : command.namesClosed find with
      | true =>
          rw [hclosed] at h
          cases h
      | false =>
          rw [hclosed] at h
          exact ⟨command, rfl, hclosed, h⟩

/-- When a lint line ends with the exit code 0, so does the line of the choice with the same message
behind the double dash, the same last locale and the same last settings file, for every count that
can be typed behind the message and whatever other options there are, if their pairs are some. -/
theorem chooseLine_succeeds_of_lintLine {host : Host}
    {lintOptions chooseOptions : List (OptionName × List Char)} {message : List Char}
    {find : List Char → Found} {environment : List (String × String)} {output errors : List Char}
    (hlint : runLine host (lintLine lintOptions message) find environment =
      .finished 0 output errors)
    (hlintOptions : Spelled lintNames lintOptions)
    (hchooseOptions : Spelled chooseNames chooseOptions)
    (hsame : ∀ name ∈ [localeName, settingsName],
      Arguments.value? ⟨lintOptions, []⟩ name = Arguments.value? ⟨chooseOptions, []⟩ name)
    {typed : List Char} {count : Int} (hcount : Decimal.ofTyped? typed = some count)
    (hpairs : ∀ pair, (replaceName, pair) ∈ chooseOptions → IsPair pair) :
    ∃ output, runLine host (chooseLine chooseOptions message typed) find environment =
      .finished 0 output [] := by
  obtain ⟨command, hread, hopen, hrun⟩ := exists_run_of_runLine hlint
  rw [read_lintLine hlintOptions] at hread
  obtain ⟨path, hpath, hcommand⟩ := Except.bind_eq_ok.1 hread
  cases hcommand
  obtain ⟨settings, hload, hissues⟩ := exists_of_withSettings hrun
  have hlocale : localeOf ⟨chooseOptions, [message, typed]⟩ = localeOf ⟨lintOptions, [message]⟩ :=
    congrArg (Option.map String.ofList) (hsame localeName (by decide)).symm
  have hsettings : settingsOf ⟨chooseOptions, [message, typed]⟩ = .ok path := by
    have hvalue : Arguments.value? ⟨chooseOptions, [message, typed]⟩ settingsName =
        Arguments.value? ⟨lintOptions, [message]⟩ settingsName :=
      (hsame settingsName (by decide)).symm
    rw [settingsOf, hvalue]
    exact hpath
  have hvalues : ∀ pair ∈ Arguments.values ⟨chooseOptions, [message, typed]⟩ replaceName,
      IsPair pair := fun pair hpair => hpairs pair (mem_options_of_mem_values hpair)
  obtain ⟨output, houtput⟩ := exists_runChoose_of_runLint hissues hcount hvalues
    (Arguments.has ⟨chooseOptions, [message, typed]⟩ substituteName)
  refine ⟨output, ?_⟩
  have hchoose := read_chooseLine hchooseOptions message hcount
  simp only [hsettings, hlocale, bind, Except.bind] at hchoose
  rw [runLine_of_read hchoose]
  simp only [namesClosed, source, settingsPath?] at hopen hload ⊢
  simp only [hopen, Bool.false_eq_true, if_false, run, withSettings, source, settingsPath?, hload]
  exact houtput

end Command
end PluralMessage
