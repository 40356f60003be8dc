/-!
The tokens of a YAML stream. Indentation is made explicit: block collections have tokens for
their start and end, and a key has a token in front of it.
-/
namespace RecordComparison.Yaml

inductive ScalarStyle where
  | plain
  | quoted
  | literal
  | folded
deriving DecidableEq

inductive Token where
  | version (major minor : Nat)
  | tagHandle (handle replacement : List Char)
  | documentStart
  | documentEnd
  | blockSequenceStart
  | blockMappingStart
  | blockEnd
  | flowSequenceStart
  | flowSequenceEnd
  | flowMappingStart
  | flowMappingEnd
  | blockEntry
  | flowEntry
  | key
  | value
  | alias (name : List Char)
  | anchor (name : List Char)
  | tag (handle suffix : List Char)
  | scalar (style : ScalarStyle) (text : List Char)
deriving DecidableEq

end RecordComparison.Yaml
