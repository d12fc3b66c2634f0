/-
# BoardCompiler.Device.LedcCtrl — a dimmable light or backlight on one PWM channel
-/
import BoardCompiler.Device.Header
import BoardCompiler.TypeParser

namespace BoardCompiler.LedcCtrl

set_option autoImplicit false

structure Settings where
  defaultPercent : Int

def reader : FieldReader Settings := do
  let defaultPercent ← .integer "default_percent" 100 (.inRange 0 100)
  return ⟨defaultPercent⟩

def descriptor (name reference : String) (s : Settings) : StructDescriptor :=
  .of "dev_ledc_ctrl_config_t" <| .ofList <| Device.header name "ledc_ctrl" ++
    [("ledc_name", .text reference), ("default_percent", .integer s.defaultPercent)]

def parser : DeviceParser :=
  .ofReader "ledc_ctrl" "ledc" ["dev_ledc_ctrl.h"] reader descriptor

end BoardCompiler.LedcCtrl
