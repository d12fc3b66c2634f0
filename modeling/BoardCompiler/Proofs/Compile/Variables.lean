/-
# BoardCompiler.Proofs.Compile.Variables — when a board defines no variable twice

The built-in types leave the naming of variables to the entity's name, so the
variables of a board are those of its declared names, peripherals first. A board
that compiles has different peripheral names, but that is all that is checked: two
names that differ may share a variable, a device may share one with a peripheral,
and devices may even share a name. `vars_nodup_iff` says exactly which boards are
free of that.
-/
import BoardCompiler.Proofs.Builtin
import BoardCompiler.Proofs.Compile.Outcome
import BoardCompiler.Proofs.VarName

namespace BoardCompiler.Board

set_option autoImplicit false

variable {e : Entity} {out : CompiledEntity}

theorem var_of_peripheral
    (compiled : CompilesTo .peripheral (peripheralDispatch Builtin.parsers) e out) :
    out.var = defaultVarName e.name := by
  obtain ⟨parser, get, accepted⟩ := compiled.peripheral_parser
  rw [compiled.var, StructDescriptor.varName, Builtin.structVar_of_peripheral get accepted]
  rfl

theorem var_of_device {lookup : Option PeripheralRegistry}
    (compiled : CompilesTo .device (deviceDispatch Builtin.parsers lookup) e out) :
    out.var = defaultVarName e.name := by
  obtain ⟨parser, get, accepted⟩ := compiled.device_parser
  rw [compiled.var, StructDescriptor.varName, Builtin.structVar_of_device get accepted]
  rfl

theorem map_var_of_forall₂ {category : Category}
    {dispatch : String → Option (String → RawConfig → Except EntityError StructDescriptor)}
    {entities : List Entity} {outs : List CompiledEntity}
    (named : ∀ e out, CompilesTo category dispatch e out → out.var = defaultVarName e.name)
    (related : List.Forall₂ (CompilesTo category dispatch) entities outs) :
    outs.map CompiledEntity.var = (entities.map Entity.name).map defaultVarName := by
  induction related with
  | nil => rfl
  | cons head _ ih =>
      rw [List.map_cons, List.map_cons, List.map_cons, named _ _ head, ih]

theorem map_defaultVarName_nodup_iff (names : List String) :
    (names.map defaultVarName).Nodup ↔ names.Pairwise fun a b => ¬ SameVariable a b := by
  rw [List.Nodup, List.pairwise_map]
  simp only [ne_eq, defaultVarName_eq_iff]

/-- The variables of a board that compiles differ exactly if no two of its names agree
in what a variable shows of them. Those of its peripherals always do where the
peripherals' names are plain. -/
theorem vars_nodup_iff {board : Board} {mode : Mode} {out : CompiledBoard}
    (compiles : (board.compile Builtin.parsers mode).outcome = .ok out) :
    ((out.entities.map CompiledEntity.var).Nodup ↔
      ((board.peripherals ++ board.devices).map Entity.name).Pairwise
        fun a b => ¬ SameVariable a b) ∧
    ((∀ e ∈ board.peripherals, PlainName e.name) →
      (out.peripherals.map CompiledEntity.var).Nodup) := by
  have compiled := compiles_of_ok compiles
  have peripherals := map_var_of_forall₂ (fun _ _ => var_of_peripheral) compiled.peripherals
  have devices := map_var_of_forall₂ (fun _ _ => var_of_device) compiled.devices
  constructor
  · rw [← map_defaultVarName_nodup_iff, CompiledBoard.entities, List.map_append, peripherals,
      devices, List.map_append, List.map_append]
  · intro plain
    rw [peripherals, map_defaultVarName_nodup_iff, List.pairwise_map]
    refine (List.pairwise_map.mp compiled.nodup).imp_of_mem ?_
    intro a b left right ne same
    exact ne ((sameVariable_iff_of_plain (plain a left) (plain b right)).mp same)

/-- Two pins with plain names, and a device that goes by the name of the first. -/
def sharedName : Board where
  peripherals :=
    [⟨"gpio_a", ⟨.mapping [(.string "name", .string "gpio_a"), (.string "type", .string "gpio")]⟩⟩,
     ⟨"gpio_b", ⟨.mapping [(.string "name", .string "gpio_b"), (.string "type", .string "gpio")]⟩⟩]
  devices :=
    [⟨"gpio_a", ⟨.mapping
       [(.string "name", .string "gpio_a"), (.string "type", .string "gpio_ctrl"),
        (.string "peripherals", .sequence [.string "gpio_b"])]⟩⟩]

/-- Its pins have different variables; with the device, one is there twice. -/
theorem sharedName_vars :
    ∃ out, (sharedName.compile Builtin.parsers .check).outcome = .ok out ∧
      (out.peripherals.map CompiledEntity.var).Nodup ∧
      ¬ (out.entities.map CompiledEntity.var).Nodup := by
  have compiles : (sharedName.compile Builtin.parsers .check).outcome = .ok _ := rfl
  have vars := vars_nodup_iff compiles
  refine ⟨_, compiles, vars.2 (by decide), fun nodup => ?_⟩
  exact absurd (vars.1.mp nodup) (by decide)

/-- Two pins whose names differ in one mark. -/
def twoPins : Board where
  peripherals :=
    [⟨"gpio-0", ⟨.mapping [(.string "name", .string "gpio-0"), (.string "type", .string "gpio")]⟩⟩,
     ⟨"gpio_0", ⟨.mapping [(.string "name", .string "gpio_0"), (.string "type", .string "gpio")]⟩⟩]
  devices := []

/-- Both pins are put out under one variable. -/
theorem twoPins_vars_not_nodup :
    ∃ out, (twoPins.compile Builtin.parsers .check).outcome = .ok out ∧
      ¬ (out.entities.map CompiledEntity.var).Nodup := by
  have compiles : (twoPins.compile Builtin.parsers .check).outcome = .ok _ := rfl
  exact ⟨_, compiles, by decide⟩

end BoardCompiler.Board
