/-
# BoardCompiler.Proofs.Compile.Outcome — what a board compiles to

The output lists of a board that compiles are its declarations, position by position
(`Compiles`): the peripherals too, which have been through the table of the registry
and are read back from it (`entries_registry`). `compile_faithful` joins that with
the checks: when a board compiles, to what, and which refusal it ends in when it
does not.
-/
import BoardCompiler.Proofs.Compile.Checks
import BoardCompiler.Proofs.ParserRegistry
import Mathlib.Data.List.Forall2

namespace BoardCompiler

set_option autoImplicit false

/-! ## Lists side by side -/

theorem forall₂_filterMap {α β : Type} {f : α → Option β} {xs : List α}
    (present : ∀ x ∈ xs, (f x).isSome) :
    List.Forall₂ (fun x y => f x = some y) xs (xs.filterMap f) := by
  induction xs with
  | nil => exact .nil
  | cons x rest ih =>
      obtain ⟨y, found⟩ := Option.isSome_iff_exists.mp (present x (by simp))
      rw [List.filterMap_cons_some found]
      exact .cons found (ih fun z member => present z (List.mem_cons_of_mem x member))

theorem exists_of_forall₂ {α β : Type} {r : α → β → Prop} {xs : List α} {ys : List β}
    (related : List.Forall₂ r xs ys) : ∀ y ∈ ys, ∃ x ∈ xs, r x y := by
  induction related with
  | nil => simp
  | cons head _ ih =>
      intro y member
      rcases List.mem_cons.mp member with rfl | later
      · exact ⟨_, by simp, head⟩
      · obtain ⟨x, member, related⟩ := ih y later
        exact ⟨x, List.mem_cons_of_mem _ member, related⟩

namespace Board

variable {parsers : ParserRegistry} {mode : Mode}

/-! ## Entity by entity -/

/-- An entity and what it compiles to: `dispatch` has a parser for its type tag, and
the descriptor is that parser's. -/
structure CompilesTo (category : Category)
    (dispatch : String → Option (String → RawConfig → Except EntityError StructDescriptor))
    (e : Entity) (out : CompiledEntity) : Prop where
  name : out.name = e.name
  tag : e.raw.typeTag? = some out.kind
  category : out.category = category
  var : out.var = out.descriptor.varName e.name
  descriptor : ∃ parse, dispatch out.kind = some parse ∧ parse e.name e.raw = .ok out.descriptor

/-- The peripheral parsers by their tags. -/
def peripheralDispatch (parsers : ParserRegistry) (tag : String) :
    Option (String → RawConfig → Except EntityError StructDescriptor) :=
  (parsers.peripherals.get? tag).map fun parser name raw => (parser.parse name raw).outcome

/-- The device parsers by their tags, with what they look peripherals up in. -/
def deviceDispatch (parsers : ParserRegistry) (lookup : Option PeripheralRegistry)
    (tag : String) : Option (String → RawConfig → Except EntityError StructDescriptor) :=
  (parsers.devices.get? tag).map fun parser name raw => (parser.parse name raw lookup).outcome

theorem CompilesTo.peripheral_parser {e : Entity} {out : CompiledEntity}
    (compiled : CompilesTo .peripheral (peripheralDispatch parsers) e out) :
    ∃ parser, parsers.peripherals.get? out.kind = some parser ∧
      (parser.parse e.name e.raw).outcome = .ok out.descriptor := by
  obtain ⟨parse, found, accepted⟩ := compiled.descriptor
  obtain ⟨parser, get, rfl⟩ := Option.map_eq_some_iff.mp found
  exact ⟨parser, get, accepted⟩

theorem CompilesTo.device_parser {lookup : Option PeripheralRegistry} {e : Entity}
    {out : CompiledEntity} (compiled : CompilesTo .device (deviceDispatch parsers lookup) e out) :
    ∃ parser, parsers.devices.get? out.kind = some parser ∧
      (parser.parse e.name e.raw lookup).outcome = .ok out.descriptor := by
  obtain ⟨parse, found, accepted⟩ := compiled.descriptor
  obtain ⟨parser, get, rfl⟩ := Option.map_eq_some_iff.mp found
  exact ⟨parser, get, accepted⟩

theorem compilesTo_of_registration? {e : Entity} {entry : String × RegisteredPeripheral}
    (registered : e.registration? parsers = some entry) :
    CompilesTo .peripheral (peripheralDispatch parsers) e (.ofEntry entry) := by
  cases parsed : e.asPeripheral parsers with
  | error cause => simp [Entity.registration?, parsed, Except.toOption] at registered
  | ok descriptor =>
      obtain ⟨tag, parser, tagged, found, parse⟩ := ParserRegistry.parsePeripheral_ok_iff.mp parsed
      have kind := Entity.kind_of_tag tagged
      cases (Entity.registration?_of_ok parsed).symm.trans registered
      refine ⟨rfl, ?_, rfl, rfl, fun name raw => (parser.parse name raw).outcome, ?_, parse⟩
      · exact kind ▸ tagged
      · show peripheralDispatch parsers e.kind = _
        rw [kind, peripheralDispatch, found, Option.map_some]

theorem compilesTo_of_compiledDevice? {lookup : Option PeripheralRegistry} {e : Entity}
    {out : CompiledEntity} (compiles : e.compiledDevice? parsers lookup = some out) :
    CompilesTo .device (deviceDispatch parsers lookup) e out := by
  cases parsed : e.asDevice parsers lookup with
  | error cause => simp [Entity.compiledDevice?, parsed, Except.toOption] at compiles
  | ok descriptor =>
      obtain ⟨tag, parser, tagged, found, parse⟩ := ParserRegistry.parseDevice_ok_iff.mp parsed
      have kind := Entity.kind_of_tag tagged
      cases (Entity.compiledDevice?_of_ok parsed).symm.trans compiles
      refine ⟨rfl, ?_, rfl, rfl, fun name raw => (parser.parse name raw lookup).outcome, ?_, parse⟩
      · exact kind ▸ tagged
      · show deviceDispatch parsers lookup e.kind = _
        rw [kind, deviceDispatch, found, Option.map_some]

/-! ## The peripherals come back from the registry -/

theorem map_fst_filterMap_registration? {entities : List Entity}
    (parse : ∀ e ∈ entities, ∃ descriptor, e.asPeripheral parsers = .ok descriptor) :
    (entities.filterMap (Entity.registration? parsers)).map (·.1) = entities.map Entity.name := by
  induction entities with
  | nil => rfl
  | cons e rest ih =>
      obtain ⟨descriptor, parsed⟩ := parse e (by simp)
      rw [List.filterMap_cons_some (Entity.registration?_of_ok parsed), List.map_cons, List.map_cons,
        ih fun f member => parse f (List.mem_cons_of_mem e member)]

/-- The peripherals come back from the registry as they were declared. -/
theorem entries_registry {board : Board}
    (parse : ∀ e ∈ board.peripherals, ∃ descriptor, e.asPeripheral parsers = .ok descriptor)
    (nodup : (board.peripherals.map Entity.name).Nodup) :
    (board.registry parsers).entries =
      board.peripherals.filterMap (Entity.registration? parsers) := by
  refine PeripheralRegistry.entries_ofList ?_
  rw [map_fst_filterMap_registration? parse]
  exact nodup

theorem contains_registry_iff {board : Board}
    (parse : ∀ e ∈ board.peripherals, ∃ descriptor, e.asPeripheral parsers = .ok descriptor)
    (name : String) :
    (board.registry parsers).contains name = true ↔ name ∈ board.peripherals.map Entity.name := by
  rw [registry, PeripheralRegistry.contains_ofList_iff, map_fst_filterMap_registration? parse]

/-! ## Boards -/

/-- A board that compiles, and what it compiles to. -/
structure Compiles (board : Board) (parsers : ParserRegistry) (mode : Mode)
    (out : CompiledBoard) : Prop where
  nodup : (board.peripherals.map Entity.name).Nodup
  contains_iff : ∀ name, (board.registry parsers).contains name = true ↔
    name ∈ board.peripherals.map Entity.name
  entries : out.peripherals = (board.registry parsers).entries.map CompiledEntity.ofEntry
  peripherals : List.Forall₂ (CompilesTo .peripheral (peripheralDispatch parsers))
    board.peripherals out.peripherals
  devices : List.Forall₂
    (CompilesTo .device (deviceDispatch parsers (mode.lookup (board.registry parsers))))
    board.devices out.devices

theorem compiles_of_ok {board : Board} {out : CompiledBoard}
    (compiles : (board.compile parsers mode).outcome = .ok out) :
    Compiles board parsers mode out := by
  obtain ⟨pass, rfl⟩ := compile_ok_iff.mp compiles
  obtain ⟨parse, nodup, parseDevices⟩ := (checks_pass_iff board mode).mp pass
  refine ⟨nodup, contains_registry_iff parse, rfl, ?_, ?_⟩
  · have present : ∀ e ∈ board.peripherals, (e.registration? parsers).isSome := by
      intro e member
      obtain ⟨descriptor, parsed⟩ := parse e member
      exact Option.isSome_of_eq_some (Entity.registration?_of_ok parsed)
    show List.Forall₂ _ _ ((board.registry parsers).entries.map CompiledEntity.ofEntry)
    rw [entries_registry parse nodup, List.forall₂_map_right_iff]
    exact (forall₂_filterMap present).imp fun _ _ => compilesTo_of_registration?
  · have present : ∀ e ∈ board.devices,
        (e.compiledDevice? parsers (mode.lookup (board.registry parsers))).isSome := by
      intro e member
      obtain ⟨descriptor, parsed⟩ := parseDevices e member
      exact Option.isSome_of_eq_some (Entity.compiledDevice?_of_ok parsed)
    exact (forall₂_filterMap present).imp fun _ _ => compilesTo_of_compiledDevice?

/-- An entity of a compiled board comes from a declared peripheral or a declared device. -/
theorem mem_entities_cases {board : Board} {out : CompiledBoard}
    (compiled : Compiles board parsers mode out) {e : CompiledEntity} (member : e ∈ out.entities) :
    (∃ declared ∈ board.peripherals,
      CompilesTo .peripheral (peripheralDispatch parsers) declared e) ∨
    ∃ declared ∈ board.devices,
      CompilesTo .device (deviceDispatch parsers (mode.lookup (board.registry parsers)))
        declared e := by
  rcases List.mem_append.mp member with peripheral | device
  · exact .inl (exists_of_forall₂ compiled.peripherals e peripheral)
  · exact .inr (exists_of_forall₂ compiled.devices e device)

theorem map_name_of_compilesTo {category : Category}
    {dispatch : String → Option (String → RawConfig → Except EntityError StructDescriptor)}
    {entities : List Entity} {outs : List CompiledEntity}
    (related : List.Forall₂ (CompilesTo category dispatch) entities outs) :
    outs.map CompiledEntity.name = entities.map Entity.name := by
  induction related with
  | nil => rfl
  | cons head _ ih => rw [List.map_cons, List.map_cons, head.name, ih]

/-- A board compiles exactly if its peripherals parse under different names and its
devices parse with all of them registered. What comes out is the declared list,
entity by entity, and what goes wrong is the first check to refuse. -/
theorem compile_faithful (board : Board) (parsers : ParserRegistry) (mode : Mode) :
    ((∃ out, (board.compile parsers mode).outcome = .ok out) ↔
      (∀ e ∈ board.peripherals, ∃ descriptor, e.asPeripheral parsers = .ok descriptor) ∧
        (board.peripherals.map Entity.name).Nodup ∧
        ∀ e ∈ board.devices, ∃ descriptor,
          e.asDevice parsers (mode.lookup (board.registry parsers)) = .ok descriptor) ∧
    (∀ out, (board.compile parsers mode).outcome = .ok out →
      out.peripherals = (board.registry parsers).entries.map CompiledEntity.ofEntry ∧
        List.Forall₂ (CompilesTo .peripheral (peripheralDispatch parsers)) board.peripherals
          out.peripherals ∧
        List.Forall₂
          (CompilesTo .device (deviceDispatch parsers (mode.lookup (board.registry parsers))))
          board.devices out.devices) ∧
    ∀ error, (board.compile parsers mode).outcome = .error error ↔
      ∃ passed later, board.checks parsers mode = passed ++ some error :: later ∧
        ∀ check ∈ passed, check = none := by
  refine ⟨?_, ?_, ?_⟩
  · rw [← checks_pass_iff]
    simp [compile_ok_iff]
  · intro out compiles
    have compiled := compiles_of_ok compiles
    exact ⟨compiled.entries, compiled.peripherals, compiled.devices⟩
  · intro error
    rw [compile_error_iff, List.findSome?_eq_some_iff]
    constructor
    · rintro ⟨passed, check, later, split, refuses, pass⟩
      exact ⟨passed, later, refuses ▸ split, pass⟩
    · rintro ⟨passed, later, split, pass⟩
      exact ⟨passed, some error, later, split, rfl, pass⟩

end Board

end BoardCompiler
