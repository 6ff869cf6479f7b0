import PluralMessage.Document.Basic
import PluralMessage.Document.Step
import PluralMessage.Settings.Basic

/-!
What the loading of settings relies on: a look into the file system, readers of documents, and how
many levels may nest in a value when it is written. None of this is fixed here.
-/
namespace PluralMessage

/-- An error of the file system: its number and what it says. -/
structure SystemError where
  number : Nat
  reason : String
deriving DecidableEq, Repr

/-- Nothing is there: no such entry, a bad descriptor, no directory on the way, or links that lead
back to themselves. -/
def SystemError.meansAbsent (e : SystemError) : Bool :=
  [2, 9, 20, 40].contains e.number

/-- What is found under a path, or the error of looking it up. What is closed is there, but may not
be read. -/
inductive Found
  | nothing
  | failed (e : SystemError)
  | closed
  | directory
  | file (bytes : List UInt8)

/-- The formats of settings files. -/
inductive Format
  | yaml
  | json
  | toml
deriving DecidableEq, Repr

namespace Format

/-- The format that a suffix in lower case names. -/
def ofSuffix? (suffix : List Char) : Option Format :=
  if suffix = ".yaml".toList || suffix = ".yml".toList then some yaml
  else if suffix = ".json".toList then some json
  else if suffix = ".toml".toList then some toml
  else none

/-- A document that counts as absent is an empty mapping in YAML. -/
def orEmpty (format : Format) (document : Document) : Document :=
  if format = yaml && document.isEmpty then .ofValue (.map []) else document

end Format

/-- How documents are read, and how many levels may nest in a value that is written for a setting.
There is memory enough, and room for the calls of the program itself. -/
structure Host where
  read : Format → List Char → Except Document.ReadError Document
  room : Setting → Nat

/-- Every text is read as a document or found to be malformed. -/
def Host.Documented (host : Host) : Prop :=
  ∀ format text e, host.read format text = .error e → e = .malformed

end PluralMessage
