/-
# BoardCompiler.Builtin — the types every board may use
-/
import BoardCompiler.Device.GpioCtrl
import BoardCompiler.Device.LedcCtrl
import BoardCompiler.ParserRegistry
import BoardCompiler.Peripheral.Gpio
import BoardCompiler.Peripheral.Ldo
import BoardCompiler.Peripheral.Ledc
import BoardCompiler.Peripheral.Sdm

namespace BoardCompiler.Builtin

set_option autoImplicit false

def peripherals : List PeripheralParser :=
  [Gpio.parser, Ldo.parser, Ledc.parser, Sdm.parser]

def devices : List DeviceParser :=
  [GpioCtrl.parser, LedcCtrl.parser]

/-- Register the built-in peripheral types. -/
def registerPeripherals (r : ParserRegistry) : ParserRegistry × List Log.Entry :=
  r.registerAll ParserRegistry.registerPeripheral peripherals

/-- Register the built-in device types. -/
def registerDevices (r : ParserRegistry) : ParserRegistry × List Log.Entry :=
  r.registerAll ParserRegistry.registerDevice devices

/-- The built-in types and no others. -/
def parsers : ParserRegistry :=
  (registerDevices (registerPeripherals .empty).1).1

end BoardCompiler.Builtin
