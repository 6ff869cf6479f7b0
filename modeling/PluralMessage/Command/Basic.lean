import PluralMessage.Command.Arguments
import PluralMessage.Decimal.Typed

/-!
Commands. A command line names a command first; what follows are its options and arguments.
-/
namespace PluralMessage

inductive Command
  | choose (message : List Char) (count : Int) (locale : Option String)
      (pairs : List (List Char)) (substitute : Bool) (settings : Option (List Char))
  | interval (count : Int) (interval : List Char)
  | form (count : Int) (locale : String)
  | locales (json : Bool)
  | lint (message : List Char) (locale : Option String) (json : Bool)
      (settings : Option (List Char))
deriving DecidableEq, Repr

namespace Command

def localeName : OptionName := ⟨"--locale", some 'l', true⟩

def replaceName : OptionName := ⟨"--replace", some 'r', true⟩

def substituteName : OptionName := ⟨"--substitute", some 's', false⟩

def settingsName : OptionName := ⟨"--config", some 'c', true⟩

def verboseName : OptionName := ⟨"--verbose", some 'v', false⟩

def jsonName : OptionName := ⟨"--json", none, false⟩

def readWhole (s : List Char) : Except UsageError Int :=
  match Decimal.ofTyped? s with
  | some n => .ok n
  | none => .error .notWhole

def wrongNumber {α : Type} (wanted : Nat) (positional : List (List Char)) : Except UsageError α :=
  .error (if positional.length < wanted then .missingArgument else .unexpectedArgument)

def localeOf (arguments : Arguments) : Option String :=
  (arguments.value? localeName).map String.ofList

/-- The path of a settings file, which no null character may be in. It is looked at before the
positional arguments. -/
def settingsOf (arguments : Arguments) : Except UsageError (Option (List Char)) :=
  match arguments.value? settingsName with
  | some path => if path.contains '\x00' then .error .nullInPath else .ok (some path)
  | none => .ok none

def readChoose (s : List (List Char)) : Except UsageError Command := do
  let names := [localeName, replaceName, substituteName, settingsName, verboseName]
  let arguments ← Arguments.read names s
  let settings ← settingsOf arguments
  match arguments.positional with
  | [message, count] => do
      let n ← readWhole count
      pure (choose message n (localeOf arguments) (arguments.values replaceName)
        (arguments.has substituteName) settings)
  | positional => wrongNumber 2 positional

def readInterval (s : List (List Char)) : Except UsageError Command := do
  let arguments ← Arguments.read [] s
  match arguments.positional with
  | [count, text] => do
      let n ← readWhole count
      pure (interval n text)
  | positional => wrongNumber 2 positional

def readForm (s : List (List Char)) : Except UsageError Command := do
  let arguments ← Arguments.read [] s
  match arguments.positional with
  | [count, locale] => do
      let n ← readWhole count
      pure (form n (String.ofList locale))
  | positional => wrongNumber 2 positional

def readLocales (s : List (List Char)) : Except UsageError Command := do
  let arguments ← Arguments.read [jsonName] s
  match arguments.positional with
  | [] => pure (locales (arguments.has jsonName))
  | positional => wrongNumber 0 positional

def readLint (s : List (List Char)) : Except UsageError Command := do
  let arguments ← Arguments.read [localeName, jsonName, settingsName] s
  let settings ← settingsOf arguments
  match arguments.positional with
  | [message] =>
      pure (lint message (localeOf arguments) (arguments.has jsonName) settings)
  | positional => wrongNumber 1 positional

def readers : List (String × (List (List Char) → Except UsageError Command)) :=
  [("choose", readChoose), ("interval", readInterval), ("form", readForm),
    ("locales", readLocales), ("lint", readLint)]

def readNamed : List (List Char) → Except UsageError Command
  | [] => .error .noCommand
  | name :: s =>
      match readers.lookup (String.ofList name) with
      | some read => read s
      | none => .error .unknownCommand

/-- Reads a command line. There are no options before the command; a double dash may stand
there. -/
def read (s : List (List Char)) : Except UsageError Command :=
  match s with
  | [] => .error .noCommand
  | first :: rest =>
      if first = ['-', '-'] then readNamed rest
      else if Arguments.isOption first then .error .unknownOption
      else readNamed s

def settingsPath? : Command → Option (List Char)
  | choose _ _ _ _ _ settings | lint _ _ _ settings => settings
  | _ => none

end Command
end PluralMessage
