/-
# BoardCompiler.Proofs.Registrations — the tables that registrations leave

A `ParserRegistry` is made by registrations one after another (`ofRegistrations`). Each
changes one table under one tag (`peripherals_register`, `devices_register`), so what stands
under a tag in the end is the latest parser of that tag and category
(`peripherals_ofRegistrations`, `devices_ofRegistrations`). The two tables know nothing of
each other: one tag may stand in both.
-/
import BoardCompiler.Builtin
import BoardCompiler.Proofs.SortedTable

namespace BoardCompiler

set_option autoImplicit false

/-- One parser that is registered. -/
inductive Registration where
  | peripheral (parser : PeripheralParser)
  | device (parser : DeviceParser)

namespace Registration

/-- The peripheral parser of a tag, if it is registered here. -/
def peripheral? (tag : String) : Registration → Option PeripheralParser
  | .peripheral parser => if parser.typeName = tag then some parser else none
  | .device _ => none

/-- The device parser of a tag, if it is registered here. -/
def device? (tag : String) : Registration → Option DeviceParser
  | .peripheral _ => none
  | .device parser => if parser.typeName = tag then some parser else none

end Registration

namespace ParserRegistry

/-- The registry after one more registration. -/
def register (r : ParserRegistry) : Registration → ParserRegistry
  | .peripheral parser => (r.registerPeripheral parser).1
  | .device parser => (r.registerDevice parser).1

/-- The registry that registrations make, one after another. -/
def ofRegistrations (registrations : List Registration) : ParserRegistry :=
  registrations.foldl register .empty

/-- The last of the registrations that are peripheral parsers of the tag. -/
def latestPeripheral? (registrations : List Registration) (tag : String) :
    Option PeripheralParser :=
  registrations.reverse.findSome? (Registration.peripheral? tag)

/-- The last of the registrations that are device parsers of the tag. -/
def latestDevice? (registrations : List Registration) (tag : String) : Option DeviceParser :=
  registrations.reverse.findSome? (Registration.device? tag)

variable {tag : String}

/-! ## One registration -/

theorem peripherals_register (r : ParserRegistry) (registration : Registration) :
    (r.register registration).peripherals.get? tag =
      (registration.peripheral? tag).or (r.peripherals.get? tag) := by
  cases registration with
  | device parser => rfl
  | peripheral parser => exact SortedTable.get?_insert r.peripherals parser.typeName tag parser

theorem devices_register (r : ParserRegistry) (registration : Registration) :
    (r.register registration).devices.get? tag =
      (registration.device? tag).or (r.devices.get? tag) := by
  cases registration with
  | peripheral parser => rfl
  | device parser => exact SortedTable.get?_insert r.devices parser.typeName tag parser

/-! ## All registrations -/

/-- A table that every registration changes only by what it registers there has the latest
of it. -/
theorem get?_registerAll {α : Type} {table : ParserRegistry → TagTable α}
    {registered? : Registration → Option α}
    (step : ∀ r registration, (table (register r registration)).get? tag =
      (registered? registration).or ((table r).get? tag))
    (registrations : List Registration) :
    ∀ r, (table (registrations.foldl register r)).get? tag =
      (registrations.reverse.findSome? registered?).or ((table r).get? tag) := by
  induction registrations with
  | nil => intro r; rfl
  | cons registration rest ih =>
      intro r
      rw [List.foldl_cons, ih, step, List.reverse_cons, List.findSome?_append,
        List.findSome?_singleton, Option.or_assoc]

theorem peripherals_ofRegistrations (registrations : List Registration) (tag : String) :
    (ofRegistrations registrations).peripherals.get? tag =
      latestPeripheral? registrations tag := by
  rw [ofRegistrations, get?_registerAll peripherals_register]
  exact Option.or_none

theorem devices_ofRegistrations (registrations : List Registration) (tag : String) :
    (ofRegistrations registrations).devices.get? tag = latestDevice? registrations tag := by
  rw [ofRegistrations, get?_registerAll devices_register]
  exact Option.or_none

end ParserRegistry

/-- The built-in types as registrations. -/
def Builtin.registrations : List Registration :=
  Builtin.peripherals.map .peripheral ++ Builtin.devices.map .device

theorem Builtin.parsers_eq_ofRegistrations :
    Builtin.parsers = ParserRegistry.ofRegistrations Builtin.registrations := rfl

end BoardCompiler
