import Verdict.Yaml.Cursor

/-!
# Tokens of YAML
-/

namespace Verdict.Yaml

/-- The pieces of a YAML text. A block has no signs of its own around it; its tokens say where lines are indented
more and less. -/
inductive Token where
  | version (major minor : Nat)
  | tagHandle (handle start : List Char)
  | documentStart
  | documentEnd
  | blockSequence
  | blockMapping
  | blockEnd
  | flowSequence
  | flowSequenceEnd
  | flowMapping
  | flowMappingEnd
  | blockEntry
  | flowEntry
  | key
  | value
  | alias (name : List Char)
  | anchor (name : List Char)
  | tag (handle suffix : List Char)
  | scalar (text : List Char) (isPlain : Bool)
deriving DecidableEq

end Verdict.Yaml
