/-!
# Tokens of YAML

A token is a scalar, a property of a node, or a mark of structure. The marks that open and close
blocks are not written; they follow from indentation.

## Main definitions

* `Yaml.Style` — how a scalar is written
* `Yaml.Token` — a token
-/

namespace PageLint.Yaml

/-- How a scalar is written. -/
inductive Style where
  | plain
  | singleQuoted
  | doubleQuoted
  | literal
  | folded
deriving DecidableEq, Repr, Inhabited

/-- A token. -/
inductive Token where
  | version (major minor : Nat)
  /-- A handle for tags, and the octets it stands for. -/
  | handle (name : List Char) (octets : List UInt8)
  | documentStart
  | documentEnd
  | blockSequence
  | blockMapping
  | blockEnd
  | flowSequence
  | flowSequenceEnd
  | flowMapping
  | flowMappingEnd
  /-- The hyphen before an item of a block. -/
  | item
  /-- The comma between items in brackets. -/
  | comma
  | key
  | value
  | alias (name : String)
  | anchor (name : String)
  /-- A tag: the name of its handle, and the octets after it. -/
  | tag (handle : List Char) (octets : List UInt8)
  | scalar (style : Style) (text : String)
deriving DecidableEq, Repr, Inhabited

end PageLint.Yaml
