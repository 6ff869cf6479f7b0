import PluralMessage.Document.Json
import PluralMessage.Document.Toml
import PluralMessage.Document.Yaml
import PluralMessage.Settings.Host

/-!
The host that the program runs with. Its limits are those of a stack of a thousand calls, a few of
which are in use when a document is read or a value is written.
-/
namespace PluralMessage.Host

def readStandard : Format → List Char → Except Document.ReadError Document
  | .yaml, text => Document.Yaml.read 490 989 text
  | .json, text => (Document.Json.read 989 text).map .ofValue
  | .toml, text => (Document.Toml.read 989 text).map .ofValue

/-- Three of the calls are taken up by making a text of the value for the substitution. -/
def standard : Host where
  read := readStandard
  room
    | .substitute => 986
    | .locale | .level => 989

end PluralMessage.Host
