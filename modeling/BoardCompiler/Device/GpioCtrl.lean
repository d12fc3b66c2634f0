/-
# BoardCompiler.Device.GpioCtrl — an actuator or indicator on one pin
-/
import BoardCompiler.Device.Header
import BoardCompiler.TypeParser

namespace BoardCompiler.GpioCtrl

set_option autoImplicit false

structure Settings where
  activeLevel : Int
  defaultLevel : Int

def reader : FieldReader Settings := do
  let activeLevel ← .flag "active_level" 0
  let defaultLevel ← .flag "default_level" 0
  return ⟨activeLevel, defaultLevel⟩

def descriptor (name reference : String) (s : Settings) : StructDescriptor :=
  .of "dev_gpio_ctrl_config_t" <| .ofList <| Device.header name "gpio_ctrl" ++
    [("gpio_name", .text reference),
     ("active_level", .integer s.activeLevel),
     ("default_level", .integer s.defaultLevel)]

def parser : DeviceParser :=
  .ofReader "gpio_ctrl" "gpio" ["dev_gpio_ctrl.h"] reader descriptor

end BoardCompiler.GpioCtrl
