import PluralMessage.Settings.Host
import PluralMessage.Settings.Path

/-!
Settings files. The suffix of a file names its format; settings stand in a section of their own or
at the top of the file. The environment overrides what a file says, after all of the file has been
checked.
-/
namespace PluralMessage

inductive SourceError
  | notFound (path : String)
  | unsupported (format : String)
  | unreadable (path : String)
  | notMapping (path : String)
  | sectionNotMapping (path : String)
deriving DecidableEq, Repr

def SourceError.message : SourceError → String
  | notFound path => s!"Configuration file not found: {path}"
  | unsupported format => s!"Unsupported file format: {format}"
  | unreadable path => s!"Failed to load config from {path}"
  | notMapping path => s!"Configuration in {path} must be a mapping"
  | sectionNotMapping path => s!"'transchoice' section in {path} must be a mapping"

/-- What is wrong with a file, its path or a text beyond the errors that are reported for it: paths
that cannot be looked up, bytes that are no text, keys of a mapping that are no texts or have no
order, numbers with too many digits, values that there are not or that cannot be written, and
documents that nest too deep. -/
inductive ContentError
  | nullInPath
  | system (e : SystemError) (path : List Char)
  | notText
  | keyNotText (kind : String)
  | keysUnordered (left right : String)
  | momentsUnordered (e : Moment.Unordered)
  | tooLong (e : Decimal.TooLong)
  | unwritten (e : Value.Obstacle)
  | noValue (e : Document.NoValue)
  | tooDeep (e : Document.TooDeep)
deriving DecidableEq, Repr

def ContentError.message : ContentError → String
  | nullInPath => "embedded null byte"
  | system e path => s!"[Errno {e.number}] {e.reason}: {String.ofList (Text.quote path)}"
  | notText => "the bytes of a file are no text"
  | keyNotText kind => s!"sequence item 0: expected str instance, {kind} found"
  | keysUnordered left right =>
      s!"'<' not supported between instances of '{left}' and '{right}'"
  | momentsUnordered e => e.message
  | tooLong e => e.message
  | unwritten e => e.message
  | noValue e => e.message
  | tooDeep e => e.message

inductive LoadError
  | settings (e : SettingsError)
  | source (e : SourceError)
  | content (e : ContentError)
deriving DecidableEq, Repr

namespace Settings

def unifyLineEnds : List Char → List Char
  | '\r' :: '\n' :: s => '\n' :: unifyLineEnds s
  | '\r' :: s => '\n' :: unifyLineEnds s
  | c :: s => c :: unifyLineEnds s
  | [] => []

def decode (bytes : List UInt8) : Option (List Char) :=
  (String.fromUTF8? ⟨bytes.toArray⟩).map fun s => unifyLineEnds s.toList

def readFile (host : Host) (path : List Char) (found : Found) : Except LoadError Document :=
  let name := String.ofList (Path.normalize path)
  match found with
  | .nothing => .error (.source (.notFound name))
  | .failed e =>
      if e.meansAbsent then .error (.source (.notFound name))
      else .error (.content (.system e (Path.normalize path)))
  | .closed | .directory => .error (.source (.unreadable name))
  | .file bytes =>
      match decode bytes, Format.ofSuffix? (Path.format path) with
      | none, _ => .error (.content .notText)
      | some _, none => .error (.source (.unsupported (String.ofList (Path.format path))))
      | some text, some format =>
          match host.read format text with
          | .ok document => .ok (format.orEmpty document)
          | .error .malformed => .error (.source (.unreadable name))
          | .error (.tooLong e) => .error (.content (.tooLong e))
          | .error (.tooDeep e) => .error (.content (.tooDeep e))
          | .error (.noValue e) => .error (.content (.noValue e))

def sectionName : String := "transchoice"

/-- The part of a file that holds the settings. -/
def sectionOf (path : List Char) (document : Document) :
    Except LoadError (List (Value × Document.Item)) :=
  let name := String.ofList (Path.normalize path)
  match document.entries? document.root with
  | none => .error (.source (.notMapping name))
  | some entries =>
      match Entries.get? Value.sameKey entries (.text sectionName) with
      | none => .ok entries
      | some item =>
          match document.entries? item with
          | some inner => .ok inner
          | none => .error (.source (.sectionNotMapping name))

/-- The keys that name no setting. -/
def otherKeys (keys : List Value) : List Value :=
  keys.filter fun key => !Setting.all.any fun setting => key.sameKey (.text setting.name)

/-- Why two keys have no order, if they have none: not both are numbers, and they are not of one
type. Dates and times may have no order of their own. -/
def unordered? : Value → Value → Option ContentError
  | .moment m, .moment m' => (m.unordered? m').map .momentsUnordered
  | a, b =>
      if a.kind == b.kind || (a.isNumber && b.isNumber) then none
      else some (.keysUnordered b.kind a.kind)

def leastKey (first : Value) (more : List Value) : Value :=
  more.foldl (fun least key =>
    match key.quantity?, least.quantity? with
    | some x, some y => if x.less y then key else least
    | _, _ => least) first

/-- Keys that name no setting are passed over, but all of them must be texts. Otherwise the least of
them is reported, if they have an order. -/
def checkOtherKeys (keys : List Value) : Except ContentError Unit :=
  let (texts, others) := keys.partition Value.isText
  match others with
  | [] => .ok ()
  | first :: more =>
      match (more ++ texts).findSome? (unordered? first) with
      | some e => .error e
      | none => .error (.keyNotText (leastKey first more).kind)

/-- The settings under keys, some of which may name no setting. -/
def ofKeys (room : Setting → Nat) (keys : List Value) (value? : Setting → Option Value) :
    Except LoadError Settings := do
  (checkOtherKeys (otherKeys keys)).mapError .content
  (ofValues room value?).mapError .settings

def ofEntries (room : Setting → Nat) (entries : List (Value × Value)) :
    Except LoadError Settings :=
  ofKeys room (entries.map Prod.fst) fun setting => Value.entry? entries setting.name

def ofDocument (room : Setting → Nat) (path : List Char) (document : Document) :
    Except LoadError Settings := do
  let entries ← sectionOf path document
  ofKeys room (entries.map Prod.fst) fun setting =>
    (Entries.get? Value.sameKey entries (.text setting.name)).map document.value

/-- The settings from a file, if one is named, and the environment. -/
def load (host : Host) (source : Option (List Char × Found))
    (environment : List (String × String)) : Except LoadError Settings := do
  let base ← match source with
    | none => pure initial
    | some (path, found) => do
        let document ← readFile host path found
        ofDocument host.room path document
  (base.overlay environment).mapError .settings

end Settings
end PluralMessage
