import PluralMessage.Document.Yaml.Graph.Content
import PluralMessage.Document.Yaml.Graph.Reader

/-!
YAML 1.1 documents. A text is split into tokens, the tokens make up a graph of nodes, and the nodes
have values. Only one document may be given.
-/
namespace PluralMessage.Document.Yaml

def isAllowed (c : Char) : Bool :=
  let n := c.toNat
  n == 0x9 || n == 0xA || n == 0xD || (0x20 ≤ n && n ≤ 0x7E) || n == 0x85 ||
    (0xA0 ≤ n && n ≤ 0xD7FF) || (0xE000 ≤ n && n ≤ 0xFFFD) || 0x10000 ≤ n

/-- Reads a whole document; an empty one is null. So many collections may be open at once, and so
many nodes be followed one after the other. -/
def read (room depth : Nat) (document : List Char) : Except ReadError Document := do
  if document.all isAllowed then
    match ← Graph.ofDocument room document with
    | (graph, some root) => graph.document depth root
    | (_, none) => pure (.ofValue .null)
  else throw .malformed

end PluralMessage.Document.Yaml
