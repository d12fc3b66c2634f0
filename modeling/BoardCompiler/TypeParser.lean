/-
# BoardCompiler.TypeParser — what a peripheral or device type provides

A type is known by its tag. It names the headers that its initializers need and
turns a raw configuration into a descriptor; a device type also names the family
of its peripheral and may look the peripheral up. `readConfig` is the common
part: read the fields in order, then warn of the keys that were not read. A type
that does no more than that is given by its reader and what it makes of the
settings (`PeripheralParser.ofReader`, `DeviceParser.ofReader`).
-/
import BoardCompiler.Reference

namespace BoardCompiler

set_option autoImplicit false

structure PeripheralParser where
  typeName : String
  includes : List String
  parse : String → RawConfig → Logged EntityError StructDescriptor

structure DeviceParser where
  typeName : String
  /-- What the name of every referenced peripheral starts with. -/
  family : String
  includes : List String
  /-- Without a registry the peripheral need not be registered. -/
  parse : String → RawConfig → Option PeripheralRegistry → Logged EntityError StructDescriptor

/-- Whether a tag names a peripheral or a device. -/
inductive Category where
  | peripheral
  | device
  deriving DecidableEq, Repr

def Category.name : Category → String
  | .peripheral => "peripheral"
  | .device => "device"

/-- What a reader of fields makes of `config`. -/
def readConfig {α : Type} (entity kind : String) (raw : RawConfig) (reader : FieldReader α) :
    Logged ErrorCause α := do
  let fields ← Logged.ofExcept raw.fields
  let (outcome, fields) := reader.runOn fields
  let settings ← Logged.ofExcept (outcome.mapError ErrorCause.field)
  Logged.writeAll (fields.unreadWarnings entity kind)
  return settings

/-- A refusal of the entity `name` of type `kind`. -/
def aboutEntity {α : Type} (name kind : String) (x : Logged ErrorCause α) : Logged EntityError α :=
  x.mapError fun cause => ⟨name, kind, cause⟩

/-- A peripheral type whose descriptor is made of its settings. -/
def PeripheralParser.ofReader {α : Type} (kind : String) (includes : List String)
    (reader : FieldReader α) (descriptor : α → StructDescriptor) : PeripheralParser where
  typeName := kind
  includes := includes
  parse name raw := aboutEntity name kind (descriptor <$> readConfig name kind raw reader)

/-- A device type whose descriptor is made of its name, its peripheral's name and its
settings. The reference is resolved before the fields are read. -/
def DeviceParser.ofReader {α : Type} (kind family : String) (includes : List String)
    (reader : FieldReader α) (descriptor : (name reference : String) → α → StructDescriptor) :
    DeviceParser where
  typeName := kind
  family := family
  includes := includes
  parse name raw registry := aboutEntity name kind do
    let reference ← resolveFirst raw family registry
    descriptor name reference <$> readConfig name kind raw reader

end BoardCompiler
