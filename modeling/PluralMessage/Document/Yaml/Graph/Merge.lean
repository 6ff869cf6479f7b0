import PluralMessage.Document.Yaml.Graph.Basic

/-!
Merge keys. The key `<<` of a mapping brings in the entries of another mapping, or those of a list
of mappings, the last one first. They come before the entries of the mapping itself, so that these
win. A mapping loses a merge key when it is looked at, so it may even bring in itself.
-/
namespace PluralMessage.Document.Yaml

abbrev Merger := StateT Graph (Except ReadError)

namespace Merger

def takeMerge? (number : Nat) : Merger (Option Nat) := do
  let graph ← get
  let (passed, rest) := (graph.entries number).span fun (key, _) => (graph.node key).tag != .merge
  match rest with
  | [] => pure none
  | (_, value) :: rest =>
      set (graph.setEntries number (passed ++ rest))
      pure (some value)

/-- Takes so many merge keys out of a mapping, if it has them. -/
def takeMerges (bring : Nat → Merger (List Entry)) (number : Nat) :
    (count : Nat) → Merger (List Entry)
  | 0 => pure []
  | count + 1 => do
      match ← takeMerge? number with
      | none => pure []
      | some value =>
          let first ← bring value
          let more ← takeMerges bring number count
          pure (first ++ more)

/-- Keys that stand for default values are texts. -/
def nameKeys (entries : List Entry) : Merger Unit := do
  let graph ← get
  let defaults := entries.filter fun (key, _) => (graph.node key).tag == .default
  modify fun graph => defaults.foldl (fun graph (key, _) => graph.modify key Node.asText) graph

/-- The entries of a mapping, which has no merge keys any more. -/
def flatten : (fuel : Nat) → Nat → Merger (List Entry)
  | 0, _ => throw (.tooDeep .other)
  | fuel + 1, number => do
      let bring (value : Nat) : Merger (List Entry) := do
        match (← get).node value with
        | .sequence _ items => do
            let parts ← items.mapM (flatten fuel)
            pure parts.reverse.flatten
        | _ => flatten fuel value
      match (← get).node number with
      | .mapping _ entries =>
          let merged ← takeMerges bring number entries.length
          let entries := merged ++ (← get).entries number
          nameKeys entries
          unless merged.isEmpty do
            modify fun graph => graph.setEntries number entries
          pure entries
      | _ => throw .malformed

end Merger
end PluralMessage.Document.Yaml
