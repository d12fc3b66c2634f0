/-
# BoardCompiler.Device.Header — the members every device structure starts with

The device's name stands in the initializer between double quotes, its type tag
bare.
-/
import BoardCompiler.Descriptor

namespace BoardCompiler.Device

set_option autoImplicit false

def header (name kind : String) : List (String × InitValue) :=
  [("name", .text ("\"" ++ name ++ "\"")), ("type", .text kind)]

end BoardCompiler.Device
