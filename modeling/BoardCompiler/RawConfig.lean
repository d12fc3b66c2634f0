/-
# BoardCompiler.RawConfig — an entity as the board file writes it

A raw configuration is one YAML value, read as a mapping with a `type`, a `name`,
a `config` mapping and, for devices, a list of `peripherals`. A null value reads
as an empty mapping; any other value that is not an untagged mapping is refused
where it is looked into.
-/
import BoardCompiler.Fields

namespace BoardCompiler

set_option autoImplicit false

open Yaml (Value)

structure RawConfig where
  value : Value

/-- The type tag shown for an entity without one. -/
def untypedKind : String := "<untyped>"

namespace RawConfig

def entries (raw : RawConfig) : Except ErrorCause (List (Value × Value)) :=
  match raw.value with
  | .null => .ok []
  | .mapping entries => .ok entries
  | other => .error (.malformed ("expected a mapping, found " ++ other.describe))

def get (raw : RawConfig) (key : String) : Except ErrorCause (Option Value) :=
  raw.entries.map (Value.lookup key)

/-- The string under a key, if the value is a mapping that has one. -/
def text? (raw : RawConfig) (key : String) : Option String :=
  match raw.get key with
  | .ok (some value) => value.asString?
  | _ => none

def typeTag? (raw : RawConfig) : Option String := raw.text? "type"

def name? (raw : RawConfig) : Option String := raw.text? "name"

/-- The type tag, or the word for its absence. -/
def kind (raw : RawConfig) : String := raw.typeTag?.getD untypedKind

/-- The fields of `config`, none read yet; absent or null is empty. -/
def fields (raw : RawConfig) : Except ErrorCause Fields :=
  match raw.get "config" with
  | .error cause => .error cause
  | .ok none => .ok .empty
  | .ok (some .null) => .ok .empty
  | .ok (some (.mapping entries)) => .ok (.ofEntries entries)
  | .ok (some other) =>
    .error (.malformed ("'config' must be a mapping, found " ++ other.describe))

/-- The entries of `peripherals`; absent or null is empty. -/
def peripherals (raw : RawConfig) : Except ErrorCause (List Value) :=
  match raw.get "peripherals" with
  | .error cause => .error cause
  | .ok none => .ok []
  | .ok (some .null) => .ok []
  | .ok (some (.sequence items)) => .ok items
  | .ok (some other) =>
    .error (.malformed ("'peripherals' must be a sequence, found " ++ other.describe))

end RawConfig

end BoardCompiler
