/-
# BoardCompiler.ParserRegistry — the types a board may use

A `TagTable` maps type tags to what they stand for. A `ParserRegistry` has one
table for peripherals and one for devices, and parses an entity with the parser
that its type tag names in the right table.
-/
import BoardCompiler.TypeParser

namespace BoardCompiler

set_option autoImplicit false

/-- A table whose names are type tags. -/
abbrev TagTable (α : Type) : Type := SortedTable α

/-- The tags in increasing order. -/
def TagTable.tags {α : Type} (table : TagTable α) : List String := table.names

structure ParserRegistry where
  peripherals : TagTable PeripheralParser
  devices : TagTable DeviceParser

namespace ParserRegistry

def empty : ParserRegistry := ⟨.empty, .empty⟩

/-- The entry written when a parser replaces one of the same tag. -/
def replacement (category : Category) (tag : String) : Log.Entry :=
  ⟨.warn, category.name ++ " parser '" ++ tag ++ "' registered twice, keeping the latest"⟩

/-- The registry with one more peripheral parser, and what is logged about it. -/
def registerPeripheral (r : ParserRegistry) (parser : PeripheralParser) :
    ParserRegistry × List Log.Entry :=
  let tag := parser.typeName
  ({ r with peripherals := r.peripherals.insert tag parser },
    if r.peripherals.contains tag then [replacement .peripheral tag] else [])

/-- The registry with one more device parser, and what is logged about it. -/
def registerDevice (r : ParserRegistry) (parser : DeviceParser) :
    ParserRegistry × List Log.Entry :=
  let tag := parser.typeName
  ({ r with devices := r.devices.insert tag parser },
    if r.devices.contains tag then [replacement .device tag] else [])

/-- Registrations one after another, with all that is logged. -/
def registerAll {α : Type} (register : ParserRegistry → α → ParserRegistry × List Log.Entry)
    (r : ParserRegistry) (parsers : List α) : ParserRegistry × List Log.Entry :=
  parsers.foldl (fun (r, log) parser =>
    let (r, more) := register r parser
    (r, log ++ more)) (r, [])

def category? (r : ParserRegistry) (tag : String) : Option Category :=
  if r.peripherals.contains tag then some .peripheral
  else if r.devices.contains tag then some .device
  else none

/-- The headers of a tag: the peripheral's where one has it, else the device's. -/
def includes? (r : ParserRegistry) (tag : String) : Option (List String) :=
  match r.peripherals.get? tag with
  | some parser => some parser.includes
  | none => (r.devices.get? tag).map DeviceParser.includes

/-- The type tag that an entity must have. -/
def requireTag (name : String) (raw : RawConfig) : Except EntityError String :=
  match raw.typeTag? with
  | some tag => .ok tag
  | none => .error ⟨name, untypedKind, .malformed "missing 'type' tag"⟩

def parsePeripheral (r : ParserRegistry) (name : String) (raw : RawConfig) :
    Logged EntityError StructDescriptor := do
  let tag ← Logged.ofExcept (requireTag name raw)
  match r.peripherals.get? tag with
  | none => Logged.fail ⟨name, tag, .unknownType⟩
  | some parser =>
    Logged.write .debug ("parsing peripheral '" ++ name ++ "' as " ++ tag)
    parser.parse name raw

def parseDevice (r : ParserRegistry) (name : String) (raw : RawConfig)
    (registry : Option PeripheralRegistry) : Logged EntityError StructDescriptor := do
  let tag ← Logged.ofExcept (requireTag name raw)
  match r.devices.get? tag with
  | none => Logged.fail ⟨name, tag, .unknownType⟩
  | some parser =>
    Logged.write .debug ("parsing device '" ++ name ++ "' as " ++ tag)
    parser.parse name raw registry

end ParserRegistry

end BoardCompiler
