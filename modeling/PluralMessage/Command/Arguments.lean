/-!
Arguments of a command line. Options and positional arguments may be mixed; a double dash ends the
options. Short options can be bundled, and what follows one that takes a value in its bundle is the
value.
-/
namespace PluralMessage.Command

/-- An option of a command, with the names that lead to it. -/
structure OptionName where
  long : String
  short : Option Char
  takesValue : Bool
deriving DecidableEq, Repr

inductive UsageError
  | noCommand
  | unknownCommand
  | unknownOption
  | missingValue
  | unexpectedValue
  | missingArgument
  | unexpectedArgument
  | notWhole
  | notPair
  | nullInPath
  | closedPath
deriving DecidableEq, Repr

/-- The options in the order in which they were given, each with its value, and the positional
arguments. -/
structure Arguments where
  options : List (OptionName × List Char)
  positional : List (List Char)

namespace Arguments

/-- What one argument says: options with their values, and perhaps one whose value comes next. -/
abbrev Given := List (OptionName × List Char) × Option OptionName

def readShort (names : List OptionName) : List Char → Except UsageError Given
  | [] => .ok ([], none)
  | c :: s =>
      match names.find? fun name => name.short == some c with
      | none => .error .unknownOption
      | some name =>
          if name.takesValue then
            if s.isEmpty then .ok ([], some name) else .ok ([(name, s)], none)
          else (readShort names s).map fun (given, next) => ((name, []) :: given, next)

/-- A long option, with the value that an equals sign may attach to it. -/
def readLong? (names : List OptionName) (argument : List Char) : Option (Except UsageError Given) :=
  let written := argument.takeWhile (· != '=')
  let attached := argument.drop written.length
  (names.find? fun name => name.long.toList == written).map fun name =>
    match name.takesValue, attached with
    | true, [] => .ok ([], some name)
    | true, _ :: value => .ok ([(name, value)], none)
    | false, [] => .ok ([(name, [])], none)
    | false, _ :: _ => .error .unexpectedValue

def readOption (names : List OptionName) (argument : List Char) : Except UsageError Given :=
  match readLong? names argument with
  | some given => given
  | none =>
      match argument with
      | '-' :: '-' :: _ => .error .unknownOption
      | _ => readShort names (argument.drop 1)

/-- Whether an argument stands for options. A single dash does not. -/
def isOption (argument : List Char) : Bool :=
  argument.head? == some '-' && 1 < argument.length

def read (names : List OptionName) : List (List Char) → Except UsageError Arguments
  | [] => .ok ⟨[], []⟩
  | argument :: rest =>
      if argument = ['-', '-'] then .ok ⟨[], rest⟩
      else if isOption argument then
        match readOption names argument with
        | .error e => .error e
        | .ok (given, none) =>
            (read names rest).map fun more => { more with options := given ++ more.options }
        | .ok (given, some name) =>
            match rest with
            | [] => .error .missingValue
            | value :: rest =>
                (read names rest).map fun more =>
                  { more with options := given ++ (name, value) :: more.options }
      else
        (read names rest).map fun more => { more with positional := argument :: more.positional }

def values (arguments : Arguments) (name : OptionName) : List (List Char) :=
  (arguments.options.filter fun (given, _) => given == name).map (·.2)

def value? (arguments : Arguments) (name : OptionName) : Option (List Char) :=
  (arguments.values name).getLast?

def has (arguments : Arguments) (name : OptionName) : Bool :=
  !(arguments.values name).isEmpty

end Arguments
end PluralMessage.Command
