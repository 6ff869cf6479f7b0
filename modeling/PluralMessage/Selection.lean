import PluralMessage.Error
import PluralMessage.Placeholder
import PluralMessage.Plural.Locale
import PluralMessage.Settings.Basic
import PluralMessage.Template

/-!
Selection of the variant of a message for a count. A template with one variant is that variant. Of
several, the first whose rule contains the count is chosen, and if there is none, the one at the
plural form of the locale. A malformed rule is an error when the search for a rule reaches it.
-/
namespace PluralMessage

inductive ChoiceSource
  | single
  | explicit (rule : List Char)
  | plural (locale : String)
deriving DecidableEq, Repr

/-- The chosen variant: its text, placeholders not replaced, and its place in the template. -/
structure Choice where
  text : List Char
  index : Nat
  source : ChoiceSource
deriving DecidableEq, Repr

/-- The first variant, counted from `index`, with a rule that contains the count. -/
def Template.firstMatch (count : Int) (index : Nat) : List Variant → Except Error (Option Choice)
  | [] => .ok none
  | ⟨_, none⟩ :: variants => firstMatch count (index + 1) variants
  | ⟨text, some rule⟩ :: variants =>
      match Interval.read rule with
      | .ok interval =>
          if interval.contains count then .ok (some ⟨text, index, .explicit rule⟩)
          else firstMatch count (index + 1) variants
      | .error e => .error (Error.ofRead e)

namespace Settings

/-- The locale of a request: the one given, unless it is missing or empty. -/
def localeFor (settings : Settings) (locale : Option String) : String :=
  match locale with
  | some l => if l.isEmpty then settings.locale else l
  | none => settings.locale

def choosePlural (variants : List Variant) (count : Int) (locale : String) :
    Except Error Choice :=
  let index := Plural.form count locale
  match variants[index]? with
  | some variant => .ok ⟨variant.text, index, .plural locale⟩
  | none => .error (.form ⟨index, variants.length, locale⟩)

def choose (settings : Settings) (message : List Char) (count : Int) (locale : Option String) :
    Except Error Choice := do
  let variants ← (Template.split message).mapError Error.tooLong
  if Template.isSingle message then
    pure ⟨message, 0, .single⟩
  else
    match ← Template.firstMatch count 0 variants with
    | some choice => pure choice
    | none => choosePlural variants count (settings.localeFor locale)

/-- The values that a message for a count is filled with: the count is always one of them. -/
def valuesFor (count : Int) (values : List (List Char × Value)) : List (List Char × Value) :=
  Entries.set (· == ·) "count".toList (.int count) values

def readValues (values : List (List Char × Value)) : Except Error (List (List Char × List Char)) :=
  values.mapM fun (name, v) => v.readChars.map (name, ·)

/-- The text of a message for a count. Placeholders are replaced if the request says so, or if it
says nothing and the settings do. -/
def resolve (settings : Settings) (message : List Char) (count : Int)
    (values : List (List Char × Value)) (locale : Option String) (substitute : Option Bool) :
    Except Error (List Char) := do
  let choice ← settings.choose message count locale
  if substitute.getD settings.substitute then
    let values ← readValues (valuesFor count values)
    pure (Placeholder.apply choice.text values)
  else
    pure choice.text

/-- The label of a selection: the name of a single item, or the message for their number. -/
def selectionLabel (settings : Settings) (names : List (List Char)) (message : List Char)
    (locale : Option String) : Except Error (List Char) :=
  match names with
  | [name] => pure name
  | _ => settings.resolve message names.length [] locale (some true)

/-- As `choose`, for a message and a count of any type; the message is looked at first. -/
def chooseValue (settings : Settings) (message count : Value) (locale : Option String) :
    Except Error Choice := do
  let message ← message.readText "message"
  let count ← count.readCount
  settings.choose message count locale

/-- As `resolve`, for a message and a count of any type. -/
def resolveValue (settings : Settings) (message count : Value) (values : List (List Char × Value))
    (locale : Option String) (substitute : Option Bool) : Except Error (List Char) := do
  let message ← message.readText "message"
  let count ← count.readCount
  settings.resolve message count values locale substitute

end Settings
end PluralMessage
