import Credentials.Yaml.Properties

/-!
# Tokens

What a stream of characters consists of. Indentation has been turned into tokens that open and close
block collections.
-/

namespace Credentials.Yaml

inductive Style where
  | plain
  | singleQuoted
  | doubleQuoted
  | literal
  | folded
  deriving DecidableEq, Repr

inductive Token where
  | directive (d : Directive)
  /-- The marker before a document. -/
  | documentStart
  /-- The marker after a document. -/
  | documentEnd
  /-- The place where a block sequence is indented. -/
  | sequenceIndent
  /-- The place where a block mapping is indented. -/
  | mappingIndent
  /-- The end of an indented block. -/
  | dedent
  | flowSequenceStart
  | flowSequenceEnd
  | flowMappingStart
  | flowMappingEnd
  /-- A dash before an item. -/
  | item
  /-- A comma. -/
  | comma
  /-- The place before a key. -/
  | key
  /-- The place before a value. -/
  | value
  | reference (name : String)
  | anchor (name : String)
  | tag (t : TagText)
  | scalar (text : String) (style : Style)
  deriving DecidableEq, Repr

end Credentials.Yaml
