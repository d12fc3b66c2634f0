/-
# BoardCompiler.Yaml.Token — the tokens of a YAML text

Block collections are bracketed by start and end tokens that indentation alone
produces. A tag is kept as its handle and the bytes of its suffix, because
escapes in it may spell any bytes.
-/
import BoardCompiler.Yaml.Cursor

namespace BoardCompiler.Yaml

set_option autoImplicit false

inductive TokenKind where
  | streamEnd
  | versionDirective (major minor : Nat)
  /-- What a tag handle stands for. -/
  | tagDirective (handle : List Char) (expansion : List UInt8)
  | documentStart
  | documentEnd
  | blockSequenceStart
  | blockMappingStart
  | blockEnd
  | flowSequenceStart
  | flowSequenceEnd
  | flowMappingStart
  | flowMappingEnd
  | blockEntry
  | flowEntry
  | key
  | value
  | aliasOf (name : List Char)
  | anchor (name : List Char)
  | tag (handle : List Char) (suffix : List UInt8)
  | scalar (plain : Bool) (text : List Char)
  deriving DecidableEq, Repr

structure Token where
  kind : TokenKind
  start : Mark
  stop : Mark

end BoardCompiler.Yaml
