/-
# BoardCompiler.Proofs.Compile.References — devices name peripherals of the board

Where references are checked, the name that a compiled device holds is the one that
its parser found in the registry. The registry has the names of the compiled
peripherals, and these differ from each other; so every device of the output names
one peripheral of the output, and one only.
-/
import BoardCompiler.Proofs.Builtin
import BoardCompiler.Proofs.Compile.Outcome

namespace BoardCompiler.Board

set_option autoImplicit false

/-- A device that its built-in parser accepts has the binding of its type. -/
theorem binding_of_dispatch {lookup : Option PeripheralRegistry} {tag name : String}
    {raw : RawConfig} {descriptor : StructDescriptor}
    (parsed : ∃ parse, deviceDispatch Builtin.parsers lookup tag = some parse ∧
      parse name raw = .ok descriptor) :
    ∃ b ∈ Builtin.bindings, b.kind = tag ∧ ∃ ref, inFamily b.family ref = true ∧
      (∀ r ∈ lookup, r.contains ref = true) ∧
      descriptor.structInit.get? b.member = some (.text ref) := by
  obtain ⟨parse, found, accepted⟩ := parsed
  obtain ⟨parser, get, rfl⟩ := Option.map_eq_some_iff.mp found
  obtain ⟨b, member, kind, of⟩ := Builtin.binding_of_device get
  obtain ⟨ref, -, inside, known, held⟩ := of.binds.reference_of_ok accepted
  exact ⟨b, member, kind, ref, of.family ▸ inside, known, held⟩

/-- The reference of every compiled device is a name of its type's family, and of
exactly one compiled peripheral. -/
theorem device_names_one_peripheral {board : Board} {out : CompiledBoard}
    (compiles : (board.compile Builtin.parsers .check).outcome = .ok out) :
    ∀ device ∈ out.devices, ∃ b ∈ Builtin.bindings, device.kind = b.kind ∧
      ∃ ref, device.descriptor.structInit.get? b.member = some (.text ref) ∧
        b.family.toList <+: ref.toList ∧
        (out.peripherals.map CompiledEntity.name).count ref = 1 := by
  have compiled := compiles_of_ok compiles
  have names := map_name_of_compilesTo compiled.peripherals
  intro device member
  obtain ⟨e, -, origin⟩ := exists_of_forall₂ compiled.devices device member
  obtain ⟨b, bound, kind, ref, inside, known, held⟩ := binding_of_dispatch origin.descriptor
  refine ⟨b, bound, kind.symm, ref, held, inFamily_iff.mp inside, ?_⟩
  have declared : ref ∈ board.peripherals.map Entity.name :=
    (compiled.contains_iff ref).mp (known _ rfl)
  rw [names]
  exact List.count_eq_one_of_mem compiled.nodup declared

/-- A button on a pin and a light on a channel, each naming its peripheral in one of
the two shapes. -/
def buttonAndLight : Board where
  peripherals :=
    [⟨"gpio-0", ⟨.mapping [(.string "name", .string "gpio-0"), (.string "type", .string "gpio")]⟩⟩,
     ⟨"ledc_bl", ⟨.mapping [(.string "name", .string "ledc_bl"), (.string "type", .string "ledc")]⟩⟩]
  devices :=
    [⟨"btn1", ⟨.mapping
       [(.string "name", .string "btn1"), (.string "type", .string "gpio_ctrl"),
        (.string "peripherals", .sequence [.string "gpio-0"])]⟩⟩,
     ⟨"light", ⟨.mapping
       [(.string "name", .string "light"), (.string "type", .string "ledc_ctrl"),
        (.string "peripherals", .sequence [.mapping [(.string "name", .string "ledc_bl")]])]⟩⟩]

theorem buttonAndLight_named :
    ∃ out, (buttonAndLight.compile Builtin.parsers .check).outcome = .ok out ∧
      out.devices.length = 2 ∧
      ∀ device ∈ out.devices, ∃ b ∈ Builtin.bindings, device.kind = b.kind ∧
        ∃ ref, device.descriptor.structInit.get? b.member = some (.text ref) ∧
          b.family.toList <+: ref.toList ∧
          (out.peripherals.map CompiledEntity.name).count ref = 1 := by
  have compiles : (buttonAndLight.compile Builtin.parsers .check).outcome = .ok _ := rfl
  exact ⟨_, compiles, rfl, device_names_one_peripheral compiles⟩

end BoardCompiler.Board
