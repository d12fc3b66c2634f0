/-
# BoardCompiler.Proofs.Compile.Sound — boards without their registry

Under the built-in types a device is compiled alike whatever registry it resolves its
reference in, so neither the conditions for a board to compile (`Board.Sound`) nor
what it compiles to (`Board.result`) need mention one: both go entity by entity, and
of the other entities of the board a device only asks whether its reference is among
their names. `compile_ok_iff_sound` says so for either mode.
-/
import BoardCompiler.Proofs.Compile.Includes
import BoardCompiler.Proofs.Compile.Modes

namespace BoardCompiler

set_option autoImplicit false

namespace Entity

/-- What the built-in types make of an entity as a peripheral, if they accept it. -/
def peripheral? (e : Entity) : Option CompiledEntity :=
  (e.registration? Builtin.parsers).map .ofEntry

/-- What the built-in types make of an entity as a device, if they accept it. -/
def device? (e : Entity) : Option CompiledEntity :=
  e.compiledDevice? Builtin.parsers none

variable {e : Entity} {out : CompiledEntity}

theorem peripheral?_eq_some_iff :
    e.peripheral? = some out ↔ ∃ descriptor, e.asPeripheral Builtin.parsers = .ok descriptor ∧
      .of e.name e.kind .peripheral descriptor = out := by
  cases parsed : e.asPeripheral Builtin.parsers <;>
    simp [peripheral?, registration?, parsed, Except.toOption, CompiledEntity.ofEntry]

theorem device?_eq_some_iff :
    e.device? = some out ↔ ∃ descriptor, e.asDevice Builtin.parsers none = .ok descriptor ∧
      .of e.name e.kind .device descriptor = out := by
  cases parsed : e.asDevice Builtin.parsers none <;>
    simp [device?, compiledDevice?, parsed, Except.toOption]

end Entity

namespace Board

/-- What the built-in types ask of a board: that they accept each entity by itself, that
no two peripherals share a name, and, where references are checked, that every device
refers to one of the peripherals. -/
structure Sound (board : Board) (mode : Mode) : Prop where
  peripherals : ∀ e ∈ board.peripherals, ∃ descriptor,
    e.asPeripheral Builtin.parsers = .ok descriptor
  names : (board.peripherals.map Entity.name).Nodup
  devices : ∀ e ∈ board.devices, ∃ descriptor, e.asDevice Builtin.parsers none = .ok descriptor
  references : mode = .check → ∀ e ∈ board.devices, board.Declares e

/-- What the built-in types make of the entities of a board. -/
def result (board : Board) : CompiledBoard :=
  let peripherals := board.peripherals.filterMap Entity.peripheral?
  let devices := board.devices.filterMap Entity.device?
  ⟨((peripherals ++ devices).flatMap (CompiledEntity.headers Builtin.parsers)).eraseDups,
    peripherals, devices⟩

variable {board : Board} {mode : Mode} {out : CompiledBoard}

/-- A device that finds its reference declared is parsed as without a registry. -/
theorem asDevice_lookup {registry : PeripheralRegistry} {e : Entity}
    (known : ∀ name, registry.contains name = true ↔ name ∈ board.peripherals.map Entity.name)
    (declares : mode = .check → board.Declares e) :
    e.asDevice Builtin.parsers (mode.lookup registry) = e.asDevice Builtin.parsers none := by
  cases mode with
  | check => exact asDevice_of_declares known (declares rfl)
  | dryRun => rfl

/-- A device is accepted on a board if it is accepted by itself and, where references are
checked, refers to a peripheral of the board. -/
theorem asDevice_lookup_ok_iff {registry : PeripheralRegistry} {e : Entity}
    (known : ∀ name, registry.contains name = true ↔ name ∈ board.peripherals.map Entity.name) :
    (∃ descriptor, e.asDevice Builtin.parsers (mode.lookup registry) = .ok descriptor) ↔
      (∃ descriptor, e.asDevice Builtin.parsers none = .ok descriptor) ∧
        (mode = .check → board.Declares e) := by
  constructor
  · rintro ⟨descriptor, parsed⟩
    cases mode with
    | dryRun => exact ⟨⟨descriptor, parsed⟩, nofun⟩
    | check =>
        have alone := asDevice_ok_of_check known parsed
        refine ⟨⟨descriptor, alone⟩, fun _ => ?_⟩
        by_contra undeclared
        obtain ⟨error, -, fails⟩ := asDevice_of_not_declares known alone undeclared
        cases fails.symm.trans parsed
  · rintro ⟨parse, declares⟩
    rwa [asDevice_lookup known declares]

theorem checks_pass_iff_sound :
    (board.checks Builtin.parsers mode).findSome? id = none ↔ board.Sound mode := by
  rw [checks_pass_iff]
  constructor
  · rintro ⟨peripherals, names, devices⟩
    have each := fun e member =>
      (asDevice_lookup_ok_iff (contains_registry_iff peripherals)).mp (devices e member)
    exact ⟨peripherals, names, fun e member => (each e member).1,
      fun check e member => (each e member).2 check⟩
  · rintro ⟨peripherals, names, devices, references⟩
    refine ⟨peripherals, names, fun e member => ?_⟩
    exact (asDevice_lookup_ok_iff (contains_registry_iff peripherals)).mpr
      ⟨devices e member, fun check => references check e member⟩

theorem Sound.compiled_eq (sound : board.Sound mode) :
    board.compiled Builtin.parsers mode = board.result := by
  have peripherals : (board.registry Builtin.parsers).entries.map CompiledEntity.ofEntry =
      board.peripherals.filterMap Entity.peripheral? := by
    rw [entries_registry sound.peripherals sound.names, List.map_filterMap]
    rfl
  have devices : board.devices.filterMap (Entity.compiledDevice? Builtin.parsers
      (mode.lookup (board.registry Builtin.parsers))) =
        board.devices.filterMap Entity.device? := by
    refine List.filterMap_congr fun e member => ?_
    rw [Entity.device?, Entity.compiledDevice?, Entity.compiledDevice?,
      asDevice_lookup (contains_registry_iff sound.peripherals)
        fun check => sound.references check e member]
  simp only [compiled, result, peripherals, devices, includesOf_eq]

/-- A board compiles if it is sound, and to its result. -/
theorem compile_ok_iff_sound :
    (board.compile Builtin.parsers mode).outcome = .ok out ↔
      board.Sound mode ∧ out = board.result := by
  rw [compile_ok_iff, checks_pass_iff_sound]
  constructor
  · rintro ⟨sound, rfl⟩
    exact ⟨sound, sound.compiled_eq⟩
  · rintro ⟨sound, rfl⟩
    exact ⟨sound, sound.compiled_eq.symm⟩

theorem exists_compile_ok_iff :
    (∃ out, (board.compile Builtin.parsers mode).outcome = .ok out) ↔ board.Sound mode := by
  simp [compile_ok_iff_sound]

/-! ## Entity by entity -/

theorem mem_peripherals_result_iff {p : CompiledEntity} :
    p ∈ board.result.peripherals ↔ ∃ e ∈ board.peripherals, ∃ descriptor,
      e.asPeripheral Builtin.parsers = .ok descriptor ∧
        .of e.name e.kind .peripheral descriptor = p := by
  simp only [result, List.mem_filterMap, Entity.peripheral?_eq_some_iff]

theorem mem_devices_result_iff {device : CompiledEntity} :
    device ∈ board.result.devices ↔ ∃ e ∈ board.devices, ∃ descriptor,
      e.asDevice Builtin.parsers none = .ok descriptor ∧
        .of e.name e.kind .device descriptor = device := by
  simp only [result, List.mem_filterMap, Entity.device?_eq_some_iff]

/-- A sound board has a result for each of its peripherals. -/
theorem Sound.peripheral?_isSome (sound : board.Sound mode) :
    ∀ e ∈ board.peripherals, e.peripheral?.isSome := by
  intro e member
  obtain ⟨descriptor, parsed⟩ := sound.peripherals e member
  exact Option.isSome_of_eq_some (Entity.peripheral?_eq_some_iff.mpr ⟨descriptor, parsed, rfl⟩)

theorem Sound.device?_isSome (sound : board.Sound mode) :
    ∀ e ∈ board.devices, e.device?.isSome := by
  intro e member
  obtain ⟨descriptor, parsed⟩ := sound.devices e member
  exact Option.isSome_of_eq_some (Entity.device?_eq_some_iff.mpr ⟨descriptor, parsed, rfl⟩)

end Board

end BoardCompiler
