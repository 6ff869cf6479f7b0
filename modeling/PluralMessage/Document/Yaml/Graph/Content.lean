import PluralMessage.Document.Basic
import PluralMessage.Document.Yaml.Graph.Merge
import PluralMessage.Document.Yaml.Scalar

/-!
What the nodes of a graph hold. Scalars have their values when they are met. Collections are filled
later, in the order in which they are met from the root on, so of several errors the one nearest to
the root counts, and of those at one depth the first.
-/
namespace PluralMessage.Document.Yaml

/-- How many nodes may be followed one after the other, the graph, the collections so far, which are
empty until they are filled, and those that have been met since the last level, the last one
first. -/
structure Filling where
  depth : Nat
  graph : Graph
  collections : Array (Option Collection)
  met : List Nat

abbrev Filler := StateT Filling (Except ReadError)

/-- Keys are the same if they are for all values, or if both are no numbers. -/
def sameKey (a b : Value) : Bool :=
  match a, b with
  | .real .nan, .real .nan => true
  | _, _ => a.sameKey b

def Tag.isCollection (tag : Tag) : Bool :=
  [seq, map, set, omap, pairs].contains tag

def Tag.isScalar (tag : Tag) : Bool :=
  [null, bool, int, float, binary, timestamp, text].contains tag

namespace Filler

def put (number : Nat) (collection : Collection) : Filler Unit :=
  modify fun filling =>
    { filling with collections := filling.collections.setIfInBounds number (some collection) }

def await (number : Nat) : Filler Unit := do
  if ((← get).collections[number]?.join).isNone then
    put number (.list [])
    modify fun filling => { filling with met := number :: filling.met }

/-- What a node is for the collection that holds it. -/
def item (number : Nat) : Filler Item := do
  let ⟨depth, graph, _, _⟩ ← get
  let tag := (graph.node number).tag
  if tag.isCollection then
    await number
    pure (.link number)
  else if tag.isScalar then
    let codes ← graph.codes depth number
    pure (.value (← scalarValue tag codes))
  else throw .malformed

/-- An entry of a mapping. No collection is a key. -/
def entry (pair : Entry) : Filler (Value × Item) := do
  match ← item pair.1 with
  | .value key => pure (key, ← item pair.2)
  | .link _ => throw .malformed

/-- The entries of a mapping, one for each key. -/
def entries (number : Nat) : Filler (List (Value × Item)) := do
  let filling ← get
  let (pairs, graph) ← (Merger.flatten filling.depth number).run filling.graph
  set { filling with graph }
  pure (Entries.merge sameKey (← pairs.mapM entry))

def items (number : Nat) : Filler (List Nat) := do
  match (← get).graph.node number with
  | .sequence _ items => pure items
  | _ => throw .malformed

def pair (number : Nat) : Filler (Item × Item) := do
  match (← get).graph.entries number with
  | [(key, value)] => pure (← item key, ← item value)
  | _ => throw .malformed

def fill (number : Nat) : Filler Unit := do
  match ((← get).graph.node number).tag with
  | .map => put number (.map (← entries number))
  | .set => put number (.set ((← entries number).map Prod.fst))
  | .seq => put number (.list (← (← items number).mapM item))
  | _ => put number (.pairs (← (← items number).mapM pair))

/-- Fills all collections that have been met, and those that are met then. -/
def fillAll : (fuel : Nat) → Filler Unit
  | 0 => pure ()
  | fuel + 1 => do
      match (← get).met.reverse with
      | [] => pure ()
      | numbers =>
          modify fun filling => { filling with met := [] }
          numbers.forM fill
          fillAll fuel

end Filler

/-- The document that a graph makes up. -/
def Graph.document (depth : Nat) (graph : Graph) (root : Nat) : Except ReadError Document := do
  let fill : Filler Item := do
    let item ← Filler.item root
    Filler.fillAll (graph.size + 1)
    pure item
  let (item, filling) ← fill.run ⟨depth, graph, .replicate graph.size none, []⟩
  pure ⟨item, filling.collections⟩

end PluralMessage.Document.Yaml
