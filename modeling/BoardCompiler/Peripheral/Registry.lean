/-
# BoardCompiler.Peripheral.Registry — the peripherals parsed so far

Peripherals are registered under their name, and a name is taken once: `register`
refuses a name that is present and leaves the registry as it was. The registry is
a table by name and, beside it, the names in the order of their registration;
`entries` reads the table in that order.
-/
import BoardCompiler.Descriptor
import BoardCompiler.Error
import BoardCompiler.SortedTable

namespace BoardCompiler

set_option autoImplicit false

/-- A parsed peripheral and its type tag. -/
structure RegisteredPeripheral where
  kind : String
  descriptor : StructDescriptor
  deriving DecidableEq

structure PeripheralRegistry where
  table : SortedTable RegisteredPeripheral
  order : List String

namespace PeripheralRegistry

def empty : PeripheralRegistry := ⟨.empty, []⟩

def contains (r : PeripheralRegistry) (name : String) : Bool := r.table.contains name

def size (r : PeripheralRegistry) : Nat := r.table.size

def isEmpty (r : PeripheralRegistry) : Bool := r.table.isEmpty

/-- The peripherals with their names, in the order of registration. -/
def entries (r : PeripheralRegistry) : List (String × RegisteredPeripheral) :=
  r.order.filterMap fun name => (r.table.get? name).map fun peripheral => (name, peripheral)

/-- Put a peripheral under its name, which must not be taken. -/
def register (name kind : String) (descriptor : StructDescriptor) :
    ExceptT EntityError (StateM PeripheralRegistry) Unit := do
  if (← get).contains name then throw ⟨name, kind, .duplicate⟩
  modify fun r => { r with order := r.order ++ [name] }
  modify fun r => { r with table := r.table.insert name ⟨kind, descriptor⟩ }

/-- The registry after a peripheral is put under its name, or the refusal. -/
def insert (r : PeripheralRegistry) (name kind : String) (descriptor : StructDescriptor) :
    Except EntityError PeripheralRegistry :=
  match (register name kind descriptor).run r with
  | (.ok (), r') => .ok r'
  | (.error e, _) => .error e

/-- The registry with a peripheral under a name that is new to it. -/
def add (r : PeripheralRegistry) (name : String) (peripheral : RegisteredPeripheral) :
    PeripheralRegistry :=
  ⟨r.table.insert name peripheral, r.order ++ [name]⟩

end PeripheralRegistry

end BoardCompiler
