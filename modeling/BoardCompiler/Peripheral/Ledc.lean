/-
# BoardCompiler.Peripheral.Ledc — a PWM channel for lights (`ledc_channel_config_t`)
-/
import BoardCompiler.TypeParser

namespace BoardCompiler.Ledc

set_option autoImplicit false

def speedModes : List String := ["low_speed", "high_speed"]

structure Settings where
  pin : Int
  speedMode : String
  channel : Int
  timer : Int
  duty : Int
  hpoint : Int
  outputInvert : Int

def reader : FieldReader Settings := do
  let pin ← .integer "gpio_num" 0 (.inRange 0 63)
  let speedMode ← .choice "speed_mode" "low_speed" speedModes
  let channel ← .integer "channel" 0 (.inRange 0 7)
  let timer ← .integer "timer_sel" 0 (.inRange 0 3)
  let duty ← .integer "duty" 0 (.atLeast 0)
  let hpoint ← .integer "hpoint" 0 (.atLeast 0)
  let outputInvert ← .flag "output_invert" 0
  return ⟨pin, speedMode, channel, timer, duty, hpoint, outputInvert⟩

def descriptor (s : Settings) : StructDescriptor :=
  .of "ledc_channel_config_t" <| .ofList
    [("gpio_num", .integer s.pin),
     ("speed_mode", .text ("LEDC_" ++ s.speedMode.toUpper ++ "_MODE")),
     ("channel", .text ("LEDC_CHANNEL_" ++ toString s.channel)),
     ("timer_sel", .text ("LEDC_TIMER_" ++ toString s.timer)),
     ("duty", .integer s.duty),
     ("hpoint", .integer s.hpoint),
     ("flags", .nested <| .ofList [("output_invert", .integer s.outputInvert)])]

def parser : PeripheralParser := .ofReader "ledc" ["driver/ledc.h"] reader descriptor

end BoardCompiler.Ledc
