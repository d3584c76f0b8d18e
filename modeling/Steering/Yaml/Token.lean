/-!
# Tokens of YAML

What a YAML text is made of. Indentation has become tokens for the start and end of sequences and
mappings, and a key is announced by a token in front of it.
-/

namespace Steering.Yaml

/-- How a scalar is written. -/
inductive ScalarStyle where
  | plain
  | singleQuoted
  | doubleQuoted
  | literal
  | folded
deriving Repr, DecidableEq

inductive Token where
  | version (major minor : Nat)
  /-- What tags with a handle begin with. -/
  | tagHandle (handle start : String)
  | documentStart
  | documentEnd
  | blockSequenceStart
  | blockMappingStart
  | blockEnd
  | flowSequenceStart
  | flowSequenceEnd
  | flowMappingStart
  | flowMappingEnd
  | blockEntry
  | flowEntry
  | key
  | value
  | alias (name : String)
  | anchor (name : String)
  /-- A tag; without a handle it is written out in full. -/
  | tag (handle name : String)
  | scalar (text : String) (style : ScalarStyle)
deriving Repr, DecidableEq

end Steering.Yaml
