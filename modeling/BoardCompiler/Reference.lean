/-
# BoardCompiler.Reference — a device's reference to its peripheral

A reference is written as a name or as a mapping with a `name`. A device binds
the first entry of its `peripherals`: `resolveFirst` gives its name once it
belongs to the device's family and, where a registry is given, is registered.
Later entries are counted and never looked into.
-/
import BoardCompiler.Peripheral.Registry
import BoardCompiler.RawConfig

namespace BoardCompiler

set_option autoImplicit false

open Yaml (Value)

inductive PeripheralRef where
  /-- A bare name. -/
  | bare (name : String)
  /-- A mapping with a `name`. -/
  | named (name : String)
  deriving DecidableEq, Repr

namespace PeripheralRef

def name : PeripheralRef → String
  | .bare name => name
  | .named name => name

def toJson : PeripheralRef → Json
  | .bare name => .string name
  | .named name => .object [("name", .string name)]

mutual

/-- Whether a tag stands anywhere in the value. -/
def hasTag : Value → Bool
  | .tagged _ _ => true
  | .sequence items => anyTag items
  | .mapping entries => anyEntryTag entries
  | _ => false

def anyTag : List Value → Bool
  | [] => false
  | v :: rest => hasTag v || anyTag rest

def anyEntryTag : List (Value × Value) → Bool
  | [] => false
  | (k, v) :: rest => hasTag k || hasTag v || anyEntryTag rest

end

/-- Keys that a reference may have: strings and naturals. -/
def isMemberKey : Value → Bool
  | .string _ => true
  | .integer n => 0 ≤ n
  | _ => false

/-- The keys of the name: its text, or its position. -/
def isNameKey : Value → Bool
  | .string s => s == "name"
  | .integer n => n == 0
  | _ => false

/-- The name that a reference's mapping holds: every key may stand in a
reference, one of them is the name's, and a string stands under it. -/
def nameOf? (entries : List (Value × Value)) : Option String :=
  if entries.all fun entry => isMemberKey entry.1 then
    match entries.filter fun entry => isNameKey entry.1 with
    | [(_, .string name)] => some name
    | _ => none
  else none

def ofValue? (value : Value) : Option PeripheralRef :=
  if hasTag value then none
  else
    match value with
    | .string name => some (.bare name)
    | .mapping entries => (nameOf? entries).map .named
    | _ => none

def ofValue (value : Value) : Except ErrorCause PeripheralRef :=
  match ofValue? value with
  | some ref => .ok ref
  | none =>
    .error (.malformed
      ("peripheral reference must be a name or a mapping with a 'name' key, found " ++
        value.describe))

end PeripheralRef

/-- The first entry of `peripherals` as a reference, and how many entries there are. -/
def RawConfig.firstPeripheral (raw : RawConfig) : Except ErrorCause (Option PeripheralRef × Nat) :=
  match raw.peripherals with
  | .error cause => .error cause
  | .ok [] => .ok (none, 0)
  | .ok (first :: rest) => (PeripheralRef.ofValue first).map fun ref => (some ref, rest.length + 1)

/-- Whether a name belongs to a family: it starts with the family's name. -/
def inFamily (family name : String) : Bool := family.toList.isPrefixOf name.toList

/-- The name of a device's peripheral. Without a registry any name of the family
will do. -/
def resolveFirst (raw : RawConfig) (family : String) (registry : Option PeripheralRegistry) :
    Logged ErrorCause String := do
  let (first, count) ← Logged.ofExcept raw.firstPeripheral
  match first with
  | none => Logged.fail .missingReference
  | some ref =>
    let name := ref.name
    if 1 < count then
      Logged.write .debug
        ("binding '" ++ name ++ "', ignoring " ++ toString (count - 1) ++
          " additional peripheral reference(s)")
    if !inFamily family name then
      Logged.fail (.wrongFamily name family)
    else if (registry.map fun r => r.contains name).getD true then
      return name
    else
      Logged.fail (.undefinedReference name)

end BoardCompiler
