/-
# BoardCompiler.Peripheral.Sdm — a sigma-delta modulator channel (`sdm_config_t`)
-/
import BoardCompiler.TypeParser

namespace BoardCompiler.Sdm

set_option autoImplicit false

def clockSources : List String := ["default", "apb", "xtal"]

structure Settings where
  pin : Int
  clockSource : String
  sampleRate : Int
  invertOut : Bool
  loopBack : Bool

def reader : FieldReader Settings := do
  let pin ← .integer "gpio_num" 0 (.atLeast 0)
  let clockSource ← .choice "clk_src" "default" clockSources
  let sampleRate ← .integer "sample_rate_hz" 1000000 (.greaterThan 0)
  let invertOut ← .boolean "invert_out" false
  let loopBack ← .boolean "io_loop_back" false
  return ⟨pin, clockSource, sampleRate, invertOut, loopBack⟩

def descriptor (s : Settings) : StructDescriptor :=
  .of "sdm_config_t" <| .ofList
    [("gpio_num", .integer s.pin),
     ("clk_src", .text ("SDM_CLK_SRC_" ++ s.clockSource.toUpper)),
     ("sample_rate_hz", .integer s.sampleRate),
     ("flags", .nested <| .ofList
       [("invert_out", .bool s.invertOut), ("io_loop_back", .bool s.loopBack)])]

def parser : PeripheralParser := .ofReader "sdm" ["driver/sdm.h"] reader descriptor

end BoardCompiler.Sdm
