/-
# BoardCompiler.Report — what the commands print

Each report is a list of lines. A check has a line for every entity and a
summary; a list has the peripherals, the devices and the headers of a board; the
types are those that a registry can parse, each with its headers.
-/
import BoardCompiler.Compile
import BoardCompiler.Text.Column
import BoardCompiler.Text.Lines

namespace BoardCompiler

set_option autoImplicit false

open Text (column)

namespace CompiledEntity

/-- Category, name, type and struct of an entity. -/
def checkLine (e : CompiledEntity) : String :=
  "  " ++ column 10 e.category.name ++ " " ++ column 24 e.name ++ " " ++ column 12 e.kind ++ " " ++
    e.descriptor.structType

/-- Name, type, struct and variable of an entity. -/
def listLine (kindWidth : Nat) (e : CompiledEntity) : String :=
  "  " ++ column 24 e.name ++ " " ++ column kindWidth e.kind ++ " " ++ e.descriptor.structType ++
    " " ++ e.var

end CompiledEntity

namespace CompiledBoard

/-- The numbers of peripherals and devices. -/
def counts (b : CompiledBoard) : String :=
  toString b.peripherals.length ++ " peripheral(s), " ++ toString b.devices.length ++ " device(s)"

/-- The last line of a check. -/
def checkSummary (b : CompiledBoard) (references : Bool) : String :=
  "ok: " ++ b.counts ++ (if references then "" else " (references not checked)")

def checkReport (b : CompiledBoard) (references : Bool) : List String :=
  b.entities.map CompiledEntity.checkLine ++ ["", b.checkSummary references]

def listReport (b : CompiledBoard) : List String :=
  ["Peripherals:"] ++ b.peripherals.map (CompiledEntity.listLine 8) ++
    ["", "Devices:"] ++ b.devices.map (CompiledEntity.listLine 12) ++
    ["", "Includes:"] ++ b.includes.map ("  " ++ ·)

end CompiledBoard

namespace ParserRegistry

/-- The headers of a type on one line. -/
def headers (r : ParserRegistry) (tag : String) : String :=
  ", ".intercalate ((r.includes? tag).getD [])

def peripheralLine (r : ParserRegistry) (tag : String) : String :=
  "  " ++ column 12 tag ++ " " ++ r.headers tag

/-- A device type also shows the family of the peripherals that it drives. -/
def deviceLine (r : ParserRegistry) (tag : String) : String :=
  let family := ((r.devices.get? tag).map DeviceParser.family).getD ""
  "  " ++ column 12 tag ++ " " ++ column 20 (r.headers tag) ++ " references: " ++ family ++ "*"

def typesReport (r : ParserRegistry) : List String :=
  ["Peripheral types:"] ++ r.peripherals.tags.map r.peripheralLine ++
    ["", "Device types:"] ++ r.devices.tags.map r.deviceLine

end ParserRegistry

end BoardCompiler
