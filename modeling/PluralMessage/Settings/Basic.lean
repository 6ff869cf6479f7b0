import PluralMessage.Text.Blank
import PluralMessage.Text.Case
import PluralMessage.Value

/-!
Settings: the locale that is used when none is given, whether placeholders are replaced in every
message, and how much is logged. Each setting is read from a value of any type; when several are
unusable, the locale is reported first, then the level, then the truth value. How many levels may
nest in a value that is written for a setting is up to who reads it.
-/
namespace PluralMessage

inductive LogLevel
  | debug
  | info
  | warning
  | error
  | critical
deriving DecidableEq, Repr

namespace LogLevel

def all : List LogLevel :=
  [debug, info, warning, error, critical]

def name : LogLevel → String
  | debug => "DEBUG"
  | info => "INFO"
  | warning => "WARNING"
  | error => "ERROR"
  | critical => "CRITICAL"

/-- The level whose name is the upper case of a text. -/
def ofText? (s : String) : Option LogLevel :=
  all.find? fun level => Text.upper s.toList = level.name.toList

end LogLevel

/-- The settings; the locale is never blank. -/
structure Settings where
  locale : String
  substitute : Bool
  level : LogLevel
  locale_not_blank : Text.isBlankString locale = false := by decide
deriving DecidableEq

/-- Why settings cannot be used. What was given is reported in its written form, unless something is
in the way of writing it. -/
inductive SettingsError
  | locale (written : List Char)
  | level (written : List Char)
  | substitute (written : List Char)
  | unwritten (e : Value.Obstacle)
deriving DecidableEq, Repr

namespace SettingsError

def message : SettingsError → String
  | locale s => s!"default_locale must be a non-empty string, got {String.ofList s}"
  | level s =>
      s!"Unknown log_level {String.ofList s}. Expected one of: " ++
        ", ".intercalate (LogLevel.all.map LogLevel.name)
  | substitute s => s!"Invalid boolean for apply_replacements: {String.ofList s}"
  | unwritten e => e.message

def report (error : List Char → SettingsError) (room : Nat) (v : Value) : SettingsError :=
  match v.writtenIn room with
  | .ok s => error s
  | .error e => unwritten e

end SettingsError

inductive Setting
  | locale
  | substitute
  | level
deriving DecidableEq, Repr

namespace Setting

def all : List Setting :=
  [locale, substitute, level]

def name : Setting → String
  | locale => "default_locale"
  | substitute => "apply_replacements"
  | level => "log_level"

def environmentName : Setting → String
  | locale => "TRANSCHOICE_DEFAULT_LOCALE"
  | substitute => "TRANSCHOICE_APPLY_REPLACEMENTS"
  | level => "TRANSCHOICE_LOG_LEVEL"

end Setting

namespace Settings

def initial : Settings where
  locale := "en"
  substitute := false
  level := .warning

/-- A locale must be a text that is not blank; it is kept as it is. -/
def readLocale (room : Nat) :
    Value → Except SettingsError { s : String // Text.isBlankString s = false }
  | .text s =>
      if h : Text.isBlankString s = false then .ok ⟨s, h⟩
      else .error (.report .locale room (.text s))
  | v => .error (.report .locale room v)

/-- A level must be a text and is recognised in any case. -/
def readLevel (room : Nat) : Value → Except SettingsError LogLevel
  | .text s =>
      match LogLevel.ofText? s with
      | some level => .ok level
      | none => .error (.report .level room (.text s))
  | v => .error (.report .level room v)

def trueWords : List (List Char) :=
  ["1", "true", "yes", "on"].map String.toList

def falseWords : List (List Char) :=
  ["0", "false", "no", "off"].map String.toList

/-- A truth value, or any value whose text is one of the words for it, in any case and between
blanks. -/
def readSubstitute (room : Nat) : Value → Except SettingsError Bool
  | .bool b => .ok b
  | v =>
      let word := (v.charsIn? room).map fun s => Text.lower (Text.trim s)
      if word.any trueWords.contains then .ok true
      else if word.any falseWords.contains then .ok false
      else .error (.report .substitute room v)

/-- The settings in a group of values, with the initial ones for those that are missing. For each
setting, so many levels may nest in its value. -/
def ofValues (room : Setting → Nat) (value? : Setting → Option Value) :
    Except SettingsError Settings := do
  let locale ← match value? .locale with
    | some v => readLocale (room .locale) v
    | none => pure ⟨initial.locale, initial.locale_not_blank⟩
  let level ← match value? .level with
    | some v => readLevel (room .level) v
    | none => pure initial.level
  let substitute ← match value? .substitute with
    | some v => readSubstitute (room .substitute) v
    | none => pure initial.substitute
  pure { locale := locale.1, substitute, level, locale_not_blank := locale.2 }

/-- The settings as values, from which the same settings are read. -/
def toValue (settings : Settings) : Setting → Value
  | .locale => .text settings.locale
  | .substitute => .bool settings.substitute
  | .level => .text settings.level.name

def toEntries (settings : Settings) : List (Value × Value) :=
  Setting.all.map fun setting => (.text setting.name, settings.toValue setting)

/-- The values of environment variables that are set and not empty. -/
def environmentValue? (environment : List (String × String)) (setting : Setting) : Option Value :=
  match environment.lookup setting.environmentName with
  | some s => if s.isEmpty then none else some (.text s)
  | none => none

/-- The settings with those of the environment on top. In texts and truth values nothing nests, so no
room is needed for levels. -/
def overlay (environment : List (String × String)) (base : Settings) :
    Except SettingsError Settings :=
  ofValues (fun _ => 0) fun setting =>
    some ((environmentValue? environment setting).getD (base.toValue setting))

end Settings
end PluralMessage
