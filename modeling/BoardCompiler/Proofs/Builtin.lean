/-
# BoardCompiler.Proofs.Builtin — the built-in types

The tables of the built-in parsers, and what holds of every type in them: none of
them names its variable (`structVar_of_peripheral`, `structVar_of_device`), and
every device type has a binding, which says which member of its structure names its
peripheral and which family that peripheral is of (`binding_of_device`).
-/
import BoardCompiler.Builtin
import BoardCompiler.Proofs.SortedTable
import BoardCompiler.Proofs.TypeParser

namespace BoardCompiler.Builtin

set_option autoImplicit false

variable {tag name : String} {raw : RawConfig} {descriptor : StructDescriptor}

theorem entries_peripherals : parsers.peripherals.entries =
    [("gpio", Gpio.parser), ("ldo", Ldo.parser), ("ledc", Ledc.parser), ("sdm", Sdm.parser)] :=
  rfl

theorem entries_devices :
    parsers.devices.entries = [("gpio_ctrl", GpioCtrl.parser), ("ledc_ctrl", LedcCtrl.parser)] :=
  rfl

theorem peripheral_cases {parser : PeripheralParser}
    (found : parsers.peripherals.get? tag = some parser) :
    tag = "gpio" ∧ parser = Gpio.parser ∨ tag = "ldo" ∧ parser = Ldo.parser ∨
      tag = "ledc" ∧ parser = Ledc.parser ∨ tag = "sdm" ∧ parser = Sdm.parser := by
  have member := SortedTable.mem_entries_of_get? found
  rw [entries_peripherals] at member
  simpa using member

theorem device_cases {parser : DeviceParser} (found : parsers.devices.get? tag = some parser) :
    tag = "gpio_ctrl" ∧ parser = GpioCtrl.parser ∨
      tag = "ledc_ctrl" ∧ parser = LedcCtrl.parser := by
  have member := SortedTable.mem_entries_of_get? found
  rw [entries_devices] at member
  simpa using member

/-! ## Variables -/

theorem structVar_of_peripheral {parser : PeripheralParser}
    (found : parsers.peripherals.get? tag = some parser)
    (parsed : (parser.parse name raw).outcome = .ok descriptor) : descriptor.structVar = none := by
  rcases peripheral_cases found with ⟨-, rfl⟩ | ⟨-, rfl⟩ | ⟨-, rfl⟩ | ⟨-, rfl⟩ <;>
    (obtain ⟨settings, -, rfl⟩ := PeripheralParser.ofReader_ok_iff.mp parsed; rfl)

theorem structVar_of_device {parser : DeviceParser} {lookup : Option PeripheralRegistry}
    (found : parsers.devices.get? tag = some parser)
    (parsed : (parser.parse name raw lookup).outcome = .ok descriptor) :
    descriptor.structVar = none := by
  rcases device_cases found with ⟨-, rfl⟩ | ⟨-, rfl⟩ <;>
    (obtain ⟨ref, settings, -, -, rfl⟩ := DeviceParser.ofReader_ok_iff.mp parsed; rfl)

/-! ## Bindings -/

/-- A device type, the member that names its peripheral, and the peripheral's family. -/
structure Binding where
  kind : String
  member : String
  family : String

def bindings : List Binding :=
  [⟨"gpio_ctrl", "gpio_name", "gpio"⟩, ⟨"ledc_ctrl", "ledc_name", "ledc"⟩]

/-- The binding is that of the parser. -/
structure Binding.Of (b : Binding) (parser : DeviceParser) : Prop where
  kind : parser.typeName = b.kind
  family : parser.family = b.family
  binds : parser.Binds b.member

theorem binding_of_device {parser : DeviceParser}
    (found : parsers.devices.get? tag = some parser) :
    ∃ b ∈ bindings, b.kind = tag ∧ b.Of parser := by
  rcases device_cases found with ⟨rfl, rfl⟩ | ⟨rfl, rfl⟩
  · exact ⟨⟨"gpio_ctrl", "gpio_name", "gpio"⟩, by simp [bindings], rfl, rfl, rfl,
      DeviceParser.ofReader_binds fun _ _ _ => rfl⟩
  · exact ⟨⟨"ledc_ctrl", "ledc_name", "ledc"⟩, by simp [bindings], rfl, rfl, rfl,
      DeviceParser.ofReader_binds fun _ _ _ => rfl⟩

end BoardCompiler.Builtin
