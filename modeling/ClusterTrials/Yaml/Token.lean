import ClusterTrials.Text.Utf8
/-!
# Tokens

What the text of a document consists of. Block collections have no marks of their own in the text: their
starts and ends are read off the indentation.
-/

namespace ClusterTrials.Yaml

/-- A part of a tag's name. Bytes may be spelled out in it, so it need not be a text. -/
abbrev TagPart := List UInt8

inductive ScalarStyle
  | plain
  | singleQuoted
  | doubleQuoted
  | literal
  | folded
  deriving DecidableEq, Repr

inductive Token
  | version (major minor : Nat)
  | tagPrefix (handle : String) (start : TagPart)
  | documentStart
  | documentEnd
  | streamEnd
  | blockSequenceStart
  | blockMappingStart
  | blockEnd
  | flowSequenceStart
  | flowSequenceEnd
  | flowMappingStart
  | flowMappingEnd
  | blockEntry
  | flowEntry
  | key
  | value
  | alias (name : String)
  | anchor (name : String)
  /-- Without a handle, the rest is the whole name. -/
  | tag (handle : Option String) (suffix : TagPart)
  | scalar (text : String) (style : ScalarStyle)
  deriving DecidableEq, Repr

end ClusterTrials.Yaml
