/-
# BoardCompiler.Proofs.Compile.Extend — boards compiled apart and together

A device that finds its reference on its own board finds it on any larger one, so two
sound boards make up a sound one unless they share the name of a peripheral
(`Sound.extend`). Then the outputs are put together (`CompiledBoard.append`) without a
second look at any entity. A shared name ends the compilation where the second board
first comes upon it (`compile_extend`).
-/
import BoardCompiler.Proofs.Compile.References
import BoardCompiler.Proofs.Compile.Sound

namespace BoardCompiler

set_option autoImplicit false

/-- Two outputs one after the other. The headers are those of all entities in their new
order, each where it is first needed. -/
def CompiledBoard.append (b c : CompiledBoard) : CompiledBoard :=
  let entities := b.peripherals ++ c.peripherals ++ b.devices ++ c.devices
  ⟨(entities.flatMap (CompiledEntity.headers Builtin.parsers)).eraseDups,
    b.peripherals ++ c.peripherals, b.devices ++ c.devices⟩

namespace Board

variable {b c : Board} {mode : Mode} {outB outC : CompiledBoard}

/-- The first peripheral of the second board that has a name of the first. -/
def shared? (b c : Board) : Option Entity :=
  c.peripherals.find? fun e => decide (e.name ∈ b.peripherals.map Entity.name)

theorem result_extend : (b.extend c).result = b.result.append c.result := by
  simp [extend, result, CompiledBoard.append]

theorem Declares.extend_left {e : Entity} (declares : b.Declares e) :
    (b.extend c).Declares e := by
  obtain ⟨ref, first, declared⟩ := declares
  exact ⟨ref, first, by rw [extend, List.map_append]; exact List.mem_append_left _ declared⟩

theorem Declares.extend_right {e : Entity} (declares : c.Declares e) :
    (b.extend c).Declares e := by
  obtain ⟨ref, first, declared⟩ := declares
  exact ⟨ref, first, by rw [extend, List.map_append]; exact List.mem_append_right _ declared⟩

/-- Names of one board that are new to another make different names with those. -/
theorem nodup_append_names {entities : List Entity}
    (nodup : (b.peripherals.map Entity.name).Nodup) (nodup' : (entities.map Entity.name).Nodup)
    (new : ∀ e ∈ entities, e.name ∉ b.peripherals.map Entity.name) :
    ((b.peripherals ++ entities).map Entity.name).Nodup := by
  rw [List.map_append]
  refine List.nodup_append.mpr ⟨nodup, nodup', ?_⟩
  rintro name old _ later rfl
  obtain ⟨e, member, rfl⟩ := List.mem_map.mp later
  exact new e member old

theorem Sound.extend (soundB : b.Sound mode) (soundC : c.Sound mode)
    (new : ∀ e ∈ c.peripherals, e.name ∉ b.peripherals.map Entity.name) :
    (b.extend c).Sound mode := by
  constructor
  · intro e member
    exact (List.mem_append.mp member).elim (soundB.peripherals e) (soundC.peripherals e)
  · exact nodup_append_names soundB.names soundC.names new
  · intro e member
    exact (List.mem_append.mp member).elim (soundB.devices e) (soundC.devices e)
  · intro check e member
    rcases List.mem_append.mp member with first | second
    · exact (soundB.references check e first).extend_left
    · exact (soundC.references check e second).extend_right

/-- The second board is refused at the first of its names that the first board has. -/
theorem compile_extend_of_shared {before after : List Entity} {e : Entity}
    (soundB : b.Sound mode) (soundC : c.Sound mode) (split : c.peripherals = before ++ e :: after)
    (new : ∀ d ∈ before, d.name ∉ b.peripherals.map Entity.name)
    (taken : e.name ∈ b.peripherals.map Entity.name) :
    ((b.extend c).compile Builtin.parsers mode).outcome =
      .error ⟨e.name, e.kind, .duplicate⟩ := by
  have whole : (b.extend c).peripherals = (b.peripherals ++ before) ++ e :: after := by
    rw [Board.extend, split, List.append_assoc]
  have nodup : (before.map Entity.name).Nodup := by
    have names := soundC.names
    rw [split, List.map_append] at names
    exact (List.nodup_append.mp names).1
  refine compile_error_cases.mpr (.inl (peripheralRefusal?_of_duplicate whole ?_ ?_ ?_))
  · intro d member
    rw [List.append_assoc] at member
    rcases List.mem_append.mp member with first | second
    · exact soundB.peripherals d first
    · refine soundC.peripherals d ?_
      rw [split, ← List.singleton_append, ← List.append_assoc]
      exact List.mem_append_left after second
  · exact nodup_append_names soundB.names nodup new
  · rw [List.map_append]
    exact List.mem_append_left _ taken

/-- Boards that compile apart compile together, to their outputs put together, unless
they share the name of a peripheral. Then the compilation ends at the first peripheral
of the second board whose name the first has. -/
theorem compile_extend (compilesB : (b.compile Builtin.parsers mode).outcome = .ok outB)
    (compilesC : (c.compile Builtin.parsers mode).outcome = .ok outC) :
    ((b.extend c).compile Builtin.parsers mode).outcome =
      match b.shared? c with
      | none => .ok (outB.append outC)
      | some e => .error ⟨e.name, e.kind, .duplicate⟩ := by
  obtain ⟨soundB, rfl⟩ := compile_ok_iff_sound.mp compilesB
  obtain ⟨soundC, rfl⟩ := compile_ok_iff_sound.mp compilesC
  cases first : b.shared? c with
  | none =>
      have new : ∀ e ∈ c.peripherals, e.name ∉ b.peripherals.map Entity.name := by
        simpa [shared?, List.find?_eq_none] using first
      exact compile_ok_iff_sound.mpr ⟨soundB.extend soundC new, result_extend.symm⟩
  | some e =>
      obtain ⟨taken, before, after, split, new⟩ := List.find?_eq_some_iff_append.mp first
      refine compile_extend_of_shared soundB soundC split ?_ (of_decide_eq_true taken)
      intro d member
      simpa using new d member

/-- A lamp on a pin of its own. -/
def lamp : Board where
  peripherals :=
    [⟨"gpio-1", ⟨.mapping [(.string "name", .string "gpio-1"), (.string "type", .string "gpio")]⟩⟩]
  devices :=
    [⟨"lamp", ⟨.mapping
       [(.string "name", .string "lamp"), (.string "type", .string "gpio_ctrl"),
        (.string "peripherals", .sequence [.string "gpio-1"])]⟩⟩]

/-- The lamp goes with the button and the light; two of the lamp meet on its pin. -/
theorem lamp_extends :
    ∃ outB outC, (buttonAndLight.compile Builtin.parsers .check).outcome = .ok outB ∧
      (lamp.compile Builtin.parsers .check).outcome = .ok outC ∧
      ((buttonAndLight.extend lamp).compile Builtin.parsers .check).outcome =
        .ok (outB.append outC) ∧
      ((lamp.extend lamp).compile Builtin.parsers .check).outcome =
        .error ⟨"gpio-1", "gpio", .duplicate⟩ := by
  have compiles : (buttonAndLight.compile Builtin.parsers .check).outcome = .ok _ := rfl
  have compilesLamp : (lamp.compile Builtin.parsers .check).outcome = .ok _ := rfl
  exact ⟨_, _, compiles, compilesLamp, compile_extend compiles compilesLamp,
    compile_extend compilesLamp compilesLamp⟩

end Board

end BoardCompiler
