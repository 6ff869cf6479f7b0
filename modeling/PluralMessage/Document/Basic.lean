import PluralMessage.Value

/-!
What a document holds. Collections have numbers, by which other collections name them, so one may be
held more than once, and even by itself. A value shows a collection inside itself as such.
-/
namespace PluralMessage

namespace Document

inductive Item
  | value (v : Value)
  | link (number : Nat)

inductive Collection
  | list (items : List Item)
  | pairs (items : List (Item × Item))
  | set (items : List Value)
  | map (entries : List (Value × Item))

namespace Collection

def isEmpty : Collection → Bool
  | list items => items.isEmpty
  | pairs items => items.isEmpty
  | set items => items.isEmpty
  | map entries => entries.isEmpty

def isMap : Collection → Bool
  | map _ => true
  | _ => false

/-- The value of a collection, from those of its items. -/
def value (ofItem : Item → Value) : Collection → Value
  | list items => .list (items.map ofItem)
  | pairs items => .list (items.map fun (key, item) => .tuple [ofItem key, ofItem item])
  | set items => .ofItems items
  | map entries => .map (entries.map fun (key, item) => (key, ofItem item))

end Collection
end Document

/-- A document. A number that is not in use has no collection. -/
structure Document where
  root : Document.Item
  collections : Array (Option Document.Collection)

namespace Document

def ofValue (v : Value) : Document :=
  ⟨.value v, #[]⟩

def collection? (document : Document) (number : Nat) : Option Collection :=
  document.collections[number]?.join

/-- The value of an item inside of some collections. -/
def valueInside (document : Document) :
    (fuel : Nat) → (outer : List Nat) → Item → Value
  | _, _, .value v => v
  | 0, _, .link _ => .null
  | fuel + 1, outer, .link number =>
      match document.collection? number with
      | none => .null
      | some collection =>
          if outer.contains number then .again collection.isMap
          else collection.value (document.valueInside fuel (number :: outer))

/-- The value of an item, when it is looked at by itself. -/
def value (document : Document) (item : Item) : Value :=
  document.valueInside (document.collections.size + 1) [] item

def isEmpty (document : Document) : Bool :=
  match document.root with
  | .value v => v.isEmpty
  | .link number => (document.collection? number).all Collection.isEmpty

def entries? (document : Document) : Item → Option (List (Value × Item))
  | .value (.map entries) => some (entries.map fun (key, item) => (key, .value item))
  | .value _ => none
  | .link number =>
      match document.collection? number with
      | some (.map entries) => some entries
      | _ => none

end Document
end PluralMessage
