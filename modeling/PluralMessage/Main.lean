import PluralMessage.Command.Run
import PluralMessage.Settings.Standard

/-!
The program: it looks at the file system and the environment for a command, runs it, and writes what
the command wrote.
-/
namespace PluralMessage

/-- What the file system says that keeps a path from being looked up. -/
def systemError : IO.Error → SystemError
  | .noFileOrDirectory _ number reason | .invalidArgument _ number reason
  | .permissionDenied _ number reason | .inappropriateType _ number reason
  | .resourceExhausted _ number reason => ⟨number.toNat, reason⟩
  | .otherError number reason | .hardwareFault number reason => ⟨number.toNat, reason⟩
  | e => ⟨5, toString e⟩

/-- Reads what is there under a path. -/
def readFound (path : String) : IO Found := do
  try
    let bytes ← IO.FS.readBinFile path
    pure (.file bytes.toList)
  catch
    | .permissionDenied .. => pure .closed
    | _ => pure .directory

def isThere (path : String) : IO Bool := do
  try
    let _ ← IO.FS.realPath path
    pure true
  catch _ =>
    pure false

/-- What is found under a path. Where nothing is there, the attempt to open it tells why. -/
def findFile (path : List Char) : IO Found := do
  let path : String := String.ofList (Path.normalize path)
  if ← isThere path then readFound path
  else
    try
      let _ ← IO.FS.Handle.mk path .read
      pure .nothing
    catch e =>
      pure (.failed (systemError e))

def environment : IO (List (String × String)) := do
  let entries ← Setting.all.mapM fun setting => do
    let v ← IO.getEnv setting.environmentName
    pure (v.map (setting.environmentName, ·))
  pure (entries.filterMap id)

def report : Command.Outcome → IO UInt32
  | .finished code output errors => do
      (← IO.getStdout).putStr (String.ofList output)
      (← IO.getStderr).putStr (String.ofList errors)
      pure code.toUInt32
  | .refused _ => do
      IO.eprintln "Usage: choose|interval|form|locales|lint [OPTIONS] [ARGUMENTS]"
      pure 2
  | .brokenOff e => do
      IO.eprintln e.message
      pure 1

end PluralMessage

open PluralMessage in
def main (arguments : List String) : IO UInt32 := do
  let arguments := arguments.map String.toList
  let path? := (Command.read arguments).toOption.bind Command.settingsPath?
  let found ← match path? with
    | some path => findFile path
    | none => pure .nothing
  report (Command.runLine .standard arguments (fun _ => found) (← environment))
