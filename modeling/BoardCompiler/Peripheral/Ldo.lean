/-
# BoardCompiler.Peripheral.Ldo — an on-chip regulator channel (`esp_ldo_channel_config_t`)

Its two flags are bits of the structure, so they are written and read as 0 or 1.
-/
import BoardCompiler.TypeParser

namespace BoardCompiler.Ldo

set_option autoImplicit false

structure Settings where
  channel : Int
  millivolts : Int
  adjustable : Int
  ownedByHardware : Int

def reader : FieldReader Settings := do
  let channel ← .integer "chan_id" 0 (.atLeast 0)
  let millivolts ← .integer "voltage_mv" 0 (.atLeast 0)
  let adjustable ← .flag "adjustable" 1
  let ownedByHardware ← .flag "owned_by_hw" 0
  return ⟨channel, millivolts, adjustable, ownedByHardware⟩

def descriptor (s : Settings) : StructDescriptor :=
  .of "esp_ldo_channel_config_t" <| .ofList
    [("chan_id", .integer s.channel),
     ("voltage_mv", .integer s.millivolts),
     ("flags", .nested <| .ofList
       [("adjustable", .integer s.adjustable), ("owned_by_hw", .integer s.ownedByHardware)])]

def parser : PeripheralParser := .ofReader "ldo" ["esp_ldo_regulator.h"] reader descriptor

end BoardCompiler.Ldo
