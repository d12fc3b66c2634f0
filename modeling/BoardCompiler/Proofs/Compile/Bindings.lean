/-
# BoardCompiler.Proofs.Compile.Bindings — names stand for types

A device drives peripherals of one type, its family, and knows them by how their names
start; the type that a peripheral was declared with is not looked at. So a device may
be bound to a peripheral of another type (`strayName_not_wellBound`). That is for the
names of the peripherals alone to rule out: where those that start with a family are
of that type (`NamedByType`), no device is bound to the wrong type, and where one is
not, `probe` is a device that is (`devices_bound_by_name`).
-/
import BoardCompiler.Proofs.Compile.References
import BoardCompiler.Proofs.Compile.Sound

namespace BoardCompiler

set_option autoImplicit false

open Builtin (Binding bindings)

/-- The device is of the binding's type, and the member for its reference has the name
of the peripheral. -/
structure Builtin.Binding.Joins (b : Binding) (device peripheral : CompiledEntity) : Prop where
  kind : device.kind = b.kind
  reference : device.descriptor.structInit.get? b.member = some (.text peripheral.name)

theorem Builtin.Binding.Joins.name_eq {b : Binding} {device p q : CompiledEntity}
    (joins : b.Joins device p) (joins' : b.Joins device q) : p.name = q.name := by
  have same := joins.reference.symm.trans joins'.reference
  simpa using same

/-- Every peripheral that a device refers to is of the type that the device drives. -/
def CompiledBoard.WellBound (out : CompiledBoard) : Prop :=
  ∀ b ∈ bindings, ∀ device ∈ out.devices, ∀ p ∈ out.peripherals,
    b.Joins device p → p.kind = b.family

/-- The names that start with a family are those of peripherals of that type. -/
def NamedByType (peripherals : List Entity) : Prop :=
  ∀ e ∈ peripherals, ∀ b ∈ bindings, b.family.toList <+: e.name.toList → e.kind = b.family

/-- A binding is known by its type tag. -/
theorem binding_eq_of_kind {b b' : Binding} (bound : b ∈ bindings) (bound' : b' ∈ bindings)
    (same : b.kind = b'.kind) : b = b' := by
  simp only [bindings, List.mem_cons, List.not_mem_nil, or_false] at bound bound'
  rcases bound with rfl | rfl <;> rcases bound' with rfl | rfl <;> simp at same ⊢

/-! ## Devices by themselves -/

/-- A device that is accepted has the binding of its type, and its first reference, a name
of the family, in the member for it. -/
theorem Entity.binding_of_asDevice {e : Entity} {lookup : Option PeripheralRegistry}
    {descriptor : StructDescriptor}
    (parsed : e.asDevice Builtin.parsers lookup = .ok descriptor) :
    ∃ b ∈ bindings, e.kind = b.kind ∧ ∃ ref, e.raw.referredName? = some ref ∧
      b.family.toList <+: ref.toList ∧
      descriptor.structInit.get? b.member = some (.text ref) := by
  obtain ⟨tag, parser, tagged, found, accepted⟩ := ParserRegistry.parseDevice_ok_iff.mp parsed
  obtain ⟨b, bound, kind, of⟩ := Builtin.binding_of_device found
  obtain ⟨ref, first, inside, -, held⟩ := of.binds.reference_of_ok accepted
  refine ⟨b, bound, (kind_of_tag tagged).trans kind.symm, ref, first, ?_, held⟩
  rw [← of.family]
  exact inFamily_iff.mp inside

/-- A device of the binding's type with nothing but a reference. -/
def Builtin.Binding.probe (b : Binding) (reference : String) : Entity :=
  ⟨"probe", ⟨.mapping
    [(.string "name", .string "probe"), (.string "type", .string b.kind),
     (.string "peripherals", .sequence [.string reference])]⟩⟩

/-- A probe is accepted for any name of the family. -/
theorem probe_accepted {b : Binding} (bound : b ∈ bindings) {reference : String}
    (inside : b.family.toList <+: reference.toList) :
    ∃ descriptor, (b.probe reference).asDevice Builtin.parsers none = .ok descriptor ∧
      descriptor.structInit.get? b.member = some (.text reference) := by
  have resolved : (resolveFirst (b.probe reference).raw b.family none).outcome = .ok reference :=
    resolveFirst_ok_iff.mpr ⟨rfl, inFamily_iff.mpr inside, nofun⟩
  simp only [bindings, List.mem_cons, List.not_mem_nil, or_false] at bound
  rcases bound with rfl | rfl
  · refine ⟨GpioCtrl.descriptor "probe" reference ⟨0, 0⟩, ?_, rfl⟩
    exact ParserRegistry.parseDevice_ok_iff.mpr ⟨_, GpioCtrl.parser, rfl, rfl,
      DeviceParser.ofReader_ok_iff.mpr ⟨_, _, resolved, rfl, rfl⟩⟩
  · refine ⟨LedcCtrl.descriptor "probe" reference ⟨100⟩, ?_, rfl⟩
    exact ParserRegistry.parseDevice_ok_iff.mpr ⟨_, LedcCtrl.parser, rfl, rfl,
      DeviceParser.ofReader_ok_iff.mpr ⟨_, _, resolved, rfl, rfl⟩⟩

namespace Board

variable {board : Board} {out : CompiledBoard}

/-! ## Devices on a board -/

/-- A device is joined to a peripheral of its board, by a name of its family. -/
theorem Sound.exists_joined (sound : board.Sound .check) :
    ∀ device ∈ board.result.devices, ∃ b ∈ bindings, ∃ p ∈ board.result.peripherals,
      b.Joins device p ∧ b.family.toList <+: p.name.toList := by
  intro device member
  obtain ⟨e, declared, descriptor, parsed, rfl⟩ := mem_devices_result_iff.mp member
  obtain ⟨b, bound, kind, ref, first, inside, held⟩ := Entity.binding_of_asDevice parsed
  obtain ⟨other, named, known⟩ := sound.references rfl e declared
  cases first.symm.trans named
  obtain ⟨f, listed, rfl⟩ := List.mem_map.mp known
  obtain ⟨initializer, accepted⟩ := sound.peripherals f listed
  exact ⟨b, bound, _, mem_peripherals_result_iff.mpr ⟨f, listed, initializer, accepted, rfl⟩,
    ⟨kind, held⟩, inside⟩

/-- No two compiled peripherals are joined to one device. -/
theorem joined_unique {b : Binding} {device p q : CompiledEntity}
    (compiles : (board.compile Builtin.parsers .check).outcome = .ok out)
    (listed : p ∈ out.peripherals) (listed' : q ∈ out.peripherals)
    (joins : b.Joins device p) (joins' : b.Joins device q) : p = q := by
  have compiled := compiles_of_ok compiles
  have nodup : (out.peripherals.map CompiledEntity.name).Nodup := by
    rw [map_name_of_compilesTo compiled.peripherals]
    exact compiled.nodup
  exact List.inj_on_of_nodup_map nodup listed listed' (joins.name_eq joins')

theorem Sound.wellBound_of_namedByType (sound : board.Sound .check)
    (named : NamedByType board.peripherals) : board.result.WellBound := by
  intro b bound device member p listed joins
  obtain ⟨b', bound', p', listed', joins', inside⟩ := sound.exists_joined device member
  cases binding_eq_of_kind bound' bound (joins'.kind.symm.trans joins.kind)
  rw [joins'.name_eq joins] at inside
  obtain ⟨e, declared, descriptor, -, rfl⟩ := mem_peripherals_result_iff.mp listed
  exact named e declared _ bound inside

/-- The probe for a peripheral that has the name of a family and another type. -/
theorem Sound.probe_not_wellBound (sound : board.Sound .check) {e : Entity} {b : Binding}
    (declared : e ∈ board.peripherals) (bound : b ∈ bindings)
    (inside : b.family.toList <+: e.name.toList) (other : e.kind ≠ b.family) :
    ∃ out, ((⟨board.peripherals, [b.probe e.name]⟩ : Board).compile
        Builtin.parsers .check).outcome = .ok out ∧ ¬ out.WellBound := by
  obtain ⟨descriptor, parsed, held⟩ := probe_accepted bound inside
  obtain ⟨initializer, accepted⟩ := sound.peripherals e declared
  have probed : (⟨board.peripherals, [b.probe e.name]⟩ : Board).Sound .check := by
    refine ⟨sound.peripherals, sound.names, ?_, fun _ => ?_⟩
    · simpa using ⟨descriptor, parsed⟩
    · simpa using ⟨e.name, rfl, List.mem_map_of_mem declared⟩
  refine ⟨_, compile_ok_iff_sound.mpr ⟨probed, rfl⟩, fun wellBound => other ?_⟩
  exact wellBound b bound _ (mem_devices_result_iff.mpr ⟨_, by simp, descriptor, parsed, rfl⟩) _
    (mem_peripherals_result_iff.mpr ⟨e, declared, initializer, accepted, rfl⟩) ⟨rfl, held⟩

/-- Every device of a board is bound to one peripheral, by a name that starts with the
type that the device drives. Its type is that one if the names of the board's
peripherals keep to their types; and if they do not, there are devices for these
peripherals of which one is bound to another type. -/
theorem devices_bound_by_name
    (compiles : (board.compile Builtin.parsers .check).outcome = .ok out) :
    (∀ device ∈ out.devices, ∃ b ∈ bindings, ∃ p ∈ out.peripherals,
      b.Joins device p ∧ b.family.toList <+: p.name.toList ∧
        ∀ q ∈ out.peripherals, b.Joins device q → q = p) ∧
    (NamedByType board.peripherals → out.WellBound) ∧
    (¬ NamedByType board.peripherals → ∃ devices out',
      ((⟨board.peripherals, devices⟩ : Board).compile Builtin.parsers .check).outcome =
        .ok out' ∧ ¬ out'.WellBound) := by
  obtain ⟨sound, same⟩ := compile_ok_iff_sound.mp compiles
  refine ⟨fun device member => ?_, fun named => same ▸ sound.wellBound_of_namedByType named, ?_⟩
  · obtain ⟨b, bound, p, listed, joins, inside⟩ := sound.exists_joined device (same ▸ member)
    have compiled : p ∈ out.peripherals := same ▸ listed
    exact ⟨b, bound, p, compiled, joins, inside,
      fun q listed' joins' => joined_unique compiles listed' compiled joins' joins⟩
  · intro stray
    simp only [NamedByType, not_forall] at stray
    obtain ⟨e, declared, b, bound, inside, other⟩ := stray
    exact ⟨_, sound.probe_not_wellBound declared bound inside other⟩

/-- The button and the light are on peripherals of their types. -/
theorem buttonAndLight_wellBound :
    ∃ out, (buttonAndLight.compile Builtin.parsers .check).outcome = .ok out ∧
      NamedByType buttonAndLight.peripherals ∧ out.WellBound := by
  have compiles : (buttonAndLight.compile Builtin.parsers .check).outcome = .ok _ := rfl
  have named : NamedByType buttonAndLight.peripherals := by
    unfold NamedByType
    decide
  exact ⟨_, compiles, named, (devices_bound_by_name compiles).2.1 named⟩

/-- A regulator that goes by the name of a pin, and a lamp on it. -/
def strayName : Board where
  peripherals :=
    [⟨"gpio-0", ⟨.mapping [(.string "name", .string "gpio-0"), (.string "type", .string "ldo")]⟩⟩]
  devices :=
    [⟨"led", ⟨.mapping
       [(.string "name", .string "led"), (.string "type", .string "gpio_ctrl"),
        (.string "peripherals", .sequence [.string "gpio-0"])]⟩⟩]

/-- The lamp is taken for one on a pin. -/
theorem strayName_not_wellBound :
    ∃ out, (strayName.compile Builtin.parsers .check).outcome = .ok out ∧ ¬ out.WellBound := by
  have compiles : (strayName.compile Builtin.parsers .check).outcome = .ok _ := rfl
  refine ⟨_, compiles, fun wellBound => ?_⟩
  have type := wellBound ⟨"gpio_ctrl", "gpio_name", "gpio"⟩ (by simp [bindings]) _
    List.mem_cons_self _ List.mem_cons_self ⟨rfl, rfl⟩
  exact absurd type (by decide)

end Board

end BoardCompiler
