/-!
Tokens of YAML. Indentation is told by tokens of its own: a block collection has a start and an end
as one between brackets or braces has.
-/
namespace PluralMessage.Document.Yaml

inductive Directive
  | version (major : Nat)
  | handle (handle uri : List Char)
  | unknown
deriving DecidableEq, Repr

/-- A token. The text of a scalar is given by its code points, since it may hold surrogates. -/
inductive Token
  | streamEnd
  | directive (d : Directive)
  | documentStart
  | documentEnd
  | blockSequenceStart
  | blockMappingStart
  | blockEnd
  | flowSequenceStart
  | flowSequenceEnd
  | flowMappingStart
  | flowMappingEnd
  | blockEntry
  | flowEntry
  | key
  | value
  | alias (name : List Char)
  | anchor (name : List Char)
  | tag (handle : Option (List Char)) (suffix : List Char)
  | scalar (codes : List Nat) (isPlain : Bool)
deriving DecidableEq, Repr

end PluralMessage.Document.Yaml
