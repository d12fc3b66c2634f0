/-
# BoardCompiler.Peripheral.Gpio — one pin, configured through `gpio_config_t`
-/
import BoardCompiler.TypeParser

namespace BoardCompiler.Gpio

set_option autoImplicit false

def modes : List String :=
  ["disable", "input", "output", "output_od", "input_output", "input_output_od"]

def interruptTypes : List String :=
  ["disable", "posedge", "negedge", "anyedge", "low_level", "high_level"]

structure Settings where
  pin : Int
  mode : String
  pullUp : Bool
  pullDown : Bool
  interruptType : String

def reader : FieldReader Settings := do
  let pin ← .integer "pin" 0 (.inRange 0 63)
  let mode ← .choice "mode" "output" modes
  let pullUp ← .boolean "pull_up" false
  let pullDown ← .boolean "pull_down" false
  let interruptType ← .choice "intr_type" "disable" interruptTypes
  return ⟨pin, mode, pullUp, pullDown, interruptType⟩

def descriptor (s : Settings) : StructDescriptor :=
  .of "gpio_config_t" <| .ofList
    [("pin_bit_mask", .text ("BIT64(" ++ toString s.pin ++ ")")),
     ("mode", .text ("GPIO_MODE_" ++ s.mode.toUpper)),
     ("pull_up_en", .text (if s.pullUp then "GPIO_PULLUP_ENABLE" else "GPIO_PULLUP_DISABLE")),
     ("pull_down_en", .text (if s.pullDown then "GPIO_PULLDOWN_ENABLE" else "GPIO_PULLDOWN_DISABLE")),
     ("intr_type", .text ("GPIO_INTR_" ++ s.interruptType.toUpper))]

def parser : PeripheralParser := .ofReader "gpio" ["driver/gpio.h"] reader descriptor

end BoardCompiler.Gpio
