import PluralMessage.Document.Step
import PluralMessage.Document.Yaml.Tag

/-!
Graphs: the structure of YAML documents, before scalars have values and mappings have one entry for
each key. Nodes are named by numbers, so aliases may lead from a node to any other.
-/
namespace PluralMessage.Document.Yaml

abbrev Entry := Nat × Nat

inductive Node
  | scalar (tag : Tag) (codes : List Nat)
  | sequence (tag : Tag) (items : List Nat)
  | mapping (tag : Tag) (entries : List Entry)

namespace Node

/-- A missing node, which counts as a plain scalar without characters. -/
def empty : Node :=
  scalar .null []

def tag : Node → Tag
  | scalar tag _ | sequence tag _ | mapping tag _ => tag

def asText : Node → Node
  | scalar _ codes => scalar .text codes
  | sequence _ items => sequence .text items
  | mapping _ entries => mapping .text entries

end Node

abbrev Graph := Array Node

namespace Graph

def node (graph : Graph) (number : Nat) : Node :=
  graph[number]?.getD .empty

/-- The entries of a node, which are none unless it is a mapping. -/
def entries (graph : Graph) (number : Nat) : List Entry :=
  match graph.node number with
  | .mapping _ entries => entries
  | _ => []

def setEntries (graph : Graph) (number : Nat) (entries : List Entry) : Graph :=
  graph.setIfInBounds number (.mapping (graph.node number).tag entries)

/-- The code points that a node has as a scalar. A mapping stands for its default value. -/
def codes (graph : Graph) : (fuel : Nat) → Nat → Except ReadError (List Nat)
  | 0, _ => .error (.tooDeep .other)
  | fuel + 1, number =>
      match graph.node number with
      | .scalar _ codes => .ok codes
      | .sequence .. => .error .malformed
      | .mapping _ entries =>
          match entries.find? fun (key, _) => (graph.node key).tag = .default with
          | some (_, value) => graph.codes fuel value
          | none => .error .malformed

end Graph
end PluralMessage.Document.Yaml
