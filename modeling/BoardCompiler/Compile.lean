/-
# BoardCompiler.Compile — a board as initializers

Peripherals are parsed first, in order, and registered under their names; devices
follow, so each of them sees every peripheral of the board. The first entity that
is refused ends the compilation. The headers of all entities are listed once, in
the order in which they are first needed.
-/
import BoardCompiler.Board
import BoardCompiler.ParserRegistry

namespace BoardCompiler

set_option autoImplicit false

/-- How the references of devices are checked. -/
inductive Mode where
  /-- Every reference names a peripheral of the board. -/
  | check
  /-- A reference need only have the right form. -/
  | dryRun
  deriving DecidableEq, Repr

def Mode.ofReferences (references : Bool) : Mode := if references then .check else .dryRun

/-- The registry that device parsers look into. -/
def Mode.lookup (registry : PeripheralRegistry) : Mode → Option PeripheralRegistry
  | .check => some registry
  | .dryRun => none

/-- One parsed entity. -/
structure CompiledEntity where
  name : String
  kind : String
  category : Category
  /-- The name of the variable to define. -/
  var : String
  descriptor : StructDescriptor
  deriving DecidableEq

namespace CompiledEntity

def of (name kind : String) (category : Category) (descriptor : StructDescriptor) :
    CompiledEntity :=
  ⟨name, kind, category, descriptor.varName name, descriptor⟩

/-- A registered peripheral, as a board lists it. -/
def ofEntry (entry : String × RegisteredPeripheral) : CompiledEntity :=
  .of entry.1 entry.2.kind .peripheral entry.2.descriptor

def toJson (e : CompiledEntity) : Json :=
  .object
    [("name", .string e.name), ("type", .string e.kind), ("category", .string e.category.name),
     ("var", .string e.var), ("descriptor", e.descriptor.toJson)]

end CompiledEntity

structure CompiledBoard where
  includes : List String
  peripherals : List CompiledEntity
  devices : List CompiledEntity
  deriving DecidableEq

namespace CompiledBoard

/-- All entities, peripherals first. -/
def entities (b : CompiledBoard) : List CompiledEntity := b.peripherals ++ b.devices

def toJson (b : CompiledBoard) : Json :=
  .object
    [("includes", .array (b.includes.map .string)),
     ("peripherals", .array (b.peripherals.map CompiledEntity.toJson)),
     ("devices", .array (b.devices.map CompiledEntity.toJson))]

end CompiledBoard

/-- Headers with those of a list that are not there yet after them. -/
def addIncludes (includes headers : List String) : List String :=
  headers.foldl (fun seen h => if seen.contains h then seen else seen ++ [h]) includes

namespace Board

/-- Parse and register peripherals in order. -/
def registerPeripherals (parsers : ParserRegistry) (registry : PeripheralRegistry) :
    List Entity → Logged EntityError PeripheralRegistry
  | [] => pure registry
  | entity :: rest => do
    let descriptor ← parsers.parsePeripheral entity.name entity.raw
    let registry ← Logged.ofExcept (registry.insert entity.name entity.kind descriptor)
    registerPeripherals parsers registry rest

/-- Parse devices in order. -/
def compileDevices (parsers : ParserRegistry) (registry : Option PeripheralRegistry) :
    List Entity → Logged EntityError (List CompiledEntity)
  | [] => pure []
  | entity :: rest => do
    let descriptor ← parsers.parseDevice entity.name entity.raw registry
    let devices ← compileDevices parsers registry rest
    return .of entity.name entity.kind .device descriptor :: devices

/-- The headers that entities of these types need, after those before them. -/
def includesOf (parsers : ParserRegistry) (includes : List String) (kinds : List String) :
    List String :=
  kinds.foldl (fun seen kind => addIncludes seen ((parsers.includes? kind).getD [])) includes

def compile (board : Board) (parsers : ParserRegistry) (mode : Mode) :
    Logged EntityError CompiledBoard := do
  let registry ← registerPeripherals parsers .empty board.peripherals
  Logged.write .debug ("registered " ++ toString registry.size ++ " peripheral(s)")
  let peripherals := registry.entries.map CompiledEntity.ofEntry
  let devices ← compileDevices parsers (mode.lookup registry) board.devices
  let includes := includesOf parsers [] ((peripherals ++ devices).map CompiledEntity.kind)
  Logged.write .info
    ("compiled " ++ toString peripherals.length ++ " peripheral(s) and " ++
      toString devices.length ++ " device(s)")
  return ⟨includes, peripherals, devices⟩

end Board

end BoardCompiler
