import PluralMessage.Command.Basic
import PluralMessage.Command.Line
import PluralMessage.Command.Table
import PluralMessage.Document.Json.Records
import PluralMessage.Lint
import PluralMessage.Selection
import PluralMessage.Settings.File

/-!
Running commands. A command ends with an exit code and what it wrote, is refused because its
arguments cannot be used, or breaks off at content that no command reports on.

What a command wrote is a text; it is assumed that the streams which take it can encode every
character. Records of a log, and the option that asks for more of them, have no part in it.
-/
namespace PluralMessage.Command

/-- How a command ends. Its errors are the lines that report a failure, without records of a log. -/
inductive Outcome
  | finished (code : Nat) (output : List Char) (errors : List Char)
  | refused (e : UsageError)
  | brokenOff (e : ContentError)
deriving DecidableEq, Repr

namespace Outcome

def success (output : List Char) : Outcome :=
  finished 0 output []

def failure (message : String) : Outcome :=
  finished 1 [] (line ("Error: " ++ message).toList)

def ofError : Error → Outcome
  | .tooLong e => brokenOff (.tooLong e)
  | .tooLarge => brokenOff (.unwritten .tooLarge)
  | e => failure e.message

/-- A command line that cannot be understood, or a path that cannot be looked up. -/
def ofUsageError : UsageError → Outcome
  | .nullInPath => brokenOff .nullInPath
  | e => refused e

def ofLoadError : LoadError → Outcome
  | .settings (.unwritten e) => brokenOff (.unwritten e)
  | .settings e => failure e.message
  | .source e => failure e.message
  | .content e => brokenOff e

end Outcome

/-- A pair given as `NAME=VALUE`; the name is not empty. -/
def readPair (s : List Char) : Except UsageError (List Char × List Char) :=
  match s.takeWhile (· != '='), s.dropWhile (· != '=') with
  | c :: name, _ :: value => .ok (c :: name, value)
  | _, _ => .error .notPair

/-- The values of all pairs; a name that is given again keeps its place. -/
def readPairs (pairs : List (List Char)) : Except UsageError (List (List Char × Value)) := do
  let values ← pairs.mapM readPair
  pure (Entries.merge (· == ·) (values.map fun (name, s) => (name, .text (String.ofList s))))

def withSettings (host : Host) (source : Option (List Char × Found))
    (environment : List (String × String)) (run : Settings → Outcome) : Outcome :=
  match Settings.load host source environment with
  | .ok settings => run settings
  | .error e => Outcome.ofLoadError e

/-- Writes the variant of a message for a count. Giving values asks for their substitution. -/
def runChoose (message : List Char) (count : Int) (locale : Option String)
    (pairs : List (List Char)) (substitute : Bool) (settings : Settings) : Outcome :=
  match readPairs pairs with
  | .error e => .ofUsageError e
  | .ok values =>
      let substitute := if substitute || !values.isEmpty then some true else none
      match settings.resolve message count values locale substitute with
      | .ok text => .success (line text)
      | .error e => Outcome.ofError e

def runInterval (count : Int) (interval : List Char) : Outcome :=
  match Interval.read interval with
  | .ok i => .success (line (if i.contains count then "true" else "false").toList)
  | .error e => Outcome.ofError (Error.ofRead e)

def runForm (count : Int) (locale : String) : Outcome :=
  .success (line (Nat.toDigits 10 (Plural.form count locale)))

def localeColumns : List Column :=
  [⟨"Locale", false⟩, ⟨"Family", false⟩, ⟨"Forms", true⟩]

def runLocales (json : Bool) : Outcome :=
  if json then
    let records := Plural.localeTable.map fun (locale, family) =>
      [("locale", .text locale), ("family", .text family.name), ("forms", .number family.forms)]
    .success (line (Document.Json.printRecords records))
  else
    let rows := Plural.localeTable.map fun (locale, family) =>
      [locale, family.name, toString family.forms]
    .success (table "Plural rules" localeColumns rows)

def issueRecord (issue : Issue) : List (String × Document.Json.Field) :=
  [("severity", .text issue.severity.name), ("code", .text issue.code),
    ("message", .text issue.message), ("variant", issue.variant?.elim .null .number)]

def issueLines (issues : List Issue) : List Char :=
  if issues.isEmpty then line "No issues found".toList
  else issues.flatMap fun issue => line issue.describe.toList

/-- Writes the issues of a template; one that is an error makes the command fail. -/
def runLint (message : List Char) (locale : Option String) (json : Bool) (settings : Settings) :
    Outcome :=
  match Lint.check message (settings.localeFor locale) with
  | .error e => .brokenOff (.tooLong e)
  | .ok issues =>
      let output :=
        if json then line (Document.Json.printRecords (issues.map issueRecord))
        else issueLines issues
      .finished (if Lint.hasErrors issues then 1 else 0) output []

/-- Where a command finds its settings, if it names a file. -/
def source (command : Command) (find : List Char → Found) : Option (List Char × Found) :=
  command.settingsPath?.map fun path => (path, find path)

def run (host : Host) (command : Command) (find : List Char → Found)
    (environment : List (String × String)) : Outcome :=
  let withSettings := withSettings host (command.source find) environment
  match command with
  | choose message count locale pairs substitute _ =>
      withSettings (runChoose message count locale pairs substitute)
  | interval count text => runInterval count text
  | form count locale => runForm count locale
  | locales json => runLocales json
  | lint message locale json _ => withSettings (runLint message locale json)

/-- Whether the file that a command names for its settings may not be read. -/
def namesClosed (command : Command) (find : List Char → Found) : Bool :=
  match command.source find with
  | some (_, .closed) => true
  | _ => false

/-- Runs a command line. A file that may not be read is refused like an argument. -/
def runLine (host : Host) (arguments : List (List Char)) (find : List Char → Found)
    (environment : List (String × String)) : Outcome :=
  match read arguments with
  | .ok command =>
      if command.namesClosed find then Outcome.ofUsageError .closedPath
      else run host command find environment
  | .error e => Outcome.ofUsageError e

end PluralMessage.Command
