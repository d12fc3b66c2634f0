/-
# BoardCompiler.Proofs.Compile.Checks — a compilation is its checks, in order

Compiling a board checks that each peripheral parses and then that its name is
new, one peripheral after another, and after them that each device parses
(`Board.checks`). The first check that refuses is the outcome; if none does, the
outcome is read off the board entity by entity (`Board.compiled`). That is
`outcome_compile`, and it holds of any parsers.

The run over peripherals carries one invariant: the names that its checks count as
taken are those of the registry so far. `checks_pass_iff` says when no check
refuses.
-/
import BoardCompiler.Compile
import BoardCompiler.Proofs.PeripheralRegistry

namespace BoardCompiler

set_option autoImplicit false

/-- The refusal of an outcome, if it is one. -/
def refusal? {α : Type} : Except EntityError α → Option EntityError
  | .ok _ => none
  | .error e => some e

@[simp] theorem refusal?_ok {α : Type} (a : α) : refusal? (.ok a) = none := rfl

@[simp] theorem refusal?_error {α : Type} (e : EntityError) :
    refusal? (.error e : Except EntityError α) = some e := rfl

@[simp] theorem refusal?_eq_some_iff {α : Type} (x : Except EntityError α) (e : EntityError) :
    refusal? x = some e ↔ x = .error e := by
  cases x <;> simp [refusal?]

theorem refusal?_eq_none_iff {α : Type} (x : Except EntityError α) :
    refusal? x = none ↔ ∃ a, x = .ok a := by
  cases x <;> simp [refusal?]

/-! ## Entities -/

namespace Entity

/-- What the parsers make of the entity as a peripheral. -/
def asPeripheral (parsers : ParserRegistry) (e : Entity) : Except EntityError StructDescriptor :=
  (parsers.parsePeripheral e.name e.raw).outcome

/-- What the parsers make of the entity as a device. -/
def asDevice (parsers : ParserRegistry) (lookup : Option PeripheralRegistry) (e : Entity) :
    Except EntityError StructDescriptor :=
  (parsers.parseDevice e.name e.raw lookup).outcome

/-- The entry of a registry for the entity, if it parses. -/
def registration? (parsers : ParserRegistry) (e : Entity) :
    Option (String × RegisteredPeripheral) :=
  (e.asPeripheral parsers).toOption.map fun descriptor => (e.name, ⟨e.kind, descriptor⟩)

/-- The entity compiled as a device, if it parses. -/
def compiledDevice? (parsers : ParserRegistry) (lookup : Option PeripheralRegistry)
    (e : Entity) : Option CompiledEntity :=
  (e.asDevice parsers lookup).toOption.map (.of e.name e.kind .device)

variable {parsers : ParserRegistry} {lookup : Option PeripheralRegistry} {e : Entity}
  {descriptor : StructDescriptor}

theorem registration?_of_ok (parsed : e.asPeripheral parsers = .ok descriptor) :
    e.registration? parsers = some (e.name, ⟨e.kind, descriptor⟩) := by
  simp [registration?, parsed, Except.toOption]

theorem compiledDevice?_of_ok (parsed : e.asDevice parsers lookup = .ok descriptor) :
    e.compiledDevice? parsers lookup = some (.of e.name e.kind .device descriptor) := by
  simp [compiledDevice?, parsed, Except.toOption]

theorem kind_of_tag {tag : String} (tagged : e.raw.typeTag? = some tag) :
    e.kind = tag := by
  simp [kind, RawConfig.kind, tagged]

end Entity

namespace Board

/-- The registry that holds every peripheral of the board. -/
def registry (parsers : ParserRegistry) (board : Board) : PeripheralRegistry :=
  .ofList (board.peripherals.filterMap (Entity.registration? parsers))

/-- The checks on peripherals, each with its refusal if it refuses: one on the
configuration, then one on the name, which those before must not have taken. -/
def peripheralChecks (parsers : ParserRegistry) :
    (taken : List String) → List Entity → List (Option EntityError)
  | _, [] => []
  | taken, e :: rest =>
      refusal? (e.asPeripheral parsers) ::
        (if e.name ∈ taken then some ⟨e.name, e.kind, .duplicate⟩ else none) ::
        peripheralChecks parsers (e.name :: taken) rest

/-- The checks on devices. -/
def deviceChecks (parsers : ParserRegistry) (lookup : Option PeripheralRegistry)
    (devices : List Entity) : List (Option EntityError) :=
  devices.map fun e => refusal? (e.asDevice parsers lookup)

theorem deviceChecks_cons (parsers : ParserRegistry) (lookup : Option PeripheralRegistry)
    (e : Entity) (rest : List Entity) :
    deviceChecks parsers lookup (e :: rest) =
      refusal? (e.asDevice parsers lookup) :: deviceChecks parsers lookup rest := rfl

/-- All checks on a board in the order in which they are made. -/
def checks (board : Board) (parsers : ParserRegistry) (mode : Mode) : List (Option EntityError) :=
  peripheralChecks parsers [] board.peripherals ++
    deviceChecks parsers (mode.lookup (board.registry parsers)) board.devices

/-- What a board compiles to if no check refuses. -/
def compiled (board : Board) (parsers : ParserRegistry) (mode : Mode) : CompiledBoard :=
  let registry := board.registry parsers
  let peripherals := registry.entries.map CompiledEntity.ofEntry
  let devices := board.devices.filterMap (Entity.compiledDevice? parsers (mode.lookup registry))
  ⟨includesOf parsers [] ((peripherals ++ devices).map CompiledEntity.kind), peripherals, devices⟩

variable {parsers : ParserRegistry}

/-! ## One entity more -/

/-- A peripheral is parsed, then registered unless its name is taken. -/
theorem outcome_registerPeripherals_cons (registry : PeripheralRegistry) (e : Entity)
    (rest : List Entity) :
    (registerPeripherals parsers registry (e :: rest)).outcome =
      match e.asPeripheral parsers with
      | .error error => .error error
      | .ok descriptor =>
          if registry.contains e.name then .error ⟨e.name, e.kind, .duplicate⟩
          else
            (registerPeripherals parsers (registry.add e.name ⟨e.kind, descriptor⟩)
              rest).outcome := by
  rw [registerPeripherals, Logged.outcome_bind, Entity.asPeripheral]
  cases (parsers.parsePeripheral e.name e.raw).outcome with
  | error error => rfl
  | ok descriptor =>
      simp only [Except.bind, Logged.outcome_bind, Logged.outcome_ofExcept]
      by_cases taken : registry.contains e.name = true
      · rw [PeripheralRegistry.insert_of_contains taken, if_pos taken]
      · have inserted := PeripheralRegistry.insert_eq_ok_iff.mpr
          ⟨eq_false_of_ne_true taken, Eq.refl (registry.add e.name ⟨e.kind, descriptor⟩)⟩
        rw [inserted, if_neg taken]

theorem outcome_compileDevices_cons (lookup : Option PeripheralRegistry) (e : Entity)
    (rest : List Entity) :
    (compileDevices parsers lookup (e :: rest)).outcome =
      match e.asDevice parsers lookup with
      | .error error => .error error
      | .ok descriptor =>
          (compileDevices parsers lookup rest).outcome.map
            (.of e.name e.kind .device descriptor :: ·) := by
  rw [compileDevices, Logged.outcome_bind, Entity.asDevice]
  cases (parsers.parseDevice e.name e.raw lookup).outcome with
  | error error => rfl
  | ok descriptor =>
      show (_ >>= fun devices => pure _ : Logged EntityError _).outcome = _
      rw [Logged.outcome_bind]
      cases (compileDevices parsers lookup rest).outcome <;> rfl

/-- The names that count as taken are those of the registry. -/
def Taken (taken : List String) (registry : PeripheralRegistry) : Prop :=
  ∀ name, name ∈ taken ↔ registry.contains name = true

theorem Taken.add {taken : List String} {registry : PeripheralRegistry}
    (agree : Taken taken registry) (name : String) (peripheral : RegisteredPeripheral) :
    Taken (name :: taken) (registry.add name peripheral) := by
  intro other
  rw [PeripheralRegistry.contains_add_iff, List.mem_cons, agree]

/-! ## The runs over peripherals and over devices -/

/-- Registering ends in the first check that refuses, or else with all peripherals
added. -/
theorem outcome_registerPeripherals (parsers : ParserRegistry) (entities : List Entity) :
    ∀ (registry : PeripheralRegistry) (taken : List String), Taken taken registry →
      (registerPeripherals parsers registry entities).outcome =
        match (peripheralChecks parsers taken entities).findSome? id with
        | some e => .error e
        | none => .ok (registry.addAll (entities.filterMap (Entity.registration? parsers))) := by
  induction entities with
  | nil => intro registry taken _; rfl
  | cons e rest ih =>
      intro registry taken agree
      rw [outcome_registerPeripherals_cons, peripheralChecks]
      cases parsed : e.asPeripheral parsers with
      | error error => simp
      | ok descriptor =>
          by_cases member : e.name ∈ taken
          · have known := (agree e.name).mp member
            simp [member, known]
          · have fresh : ¬ registry.contains e.name = true := by
              rw [← agree]
              exact member
            have tail := ih _ _ (agree.add e.name ⟨e.kind, descriptor⟩)
            rw [List.filterMap_cons_some (Entity.registration?_of_ok parsed)]
            simp [member, fresh, tail, PeripheralRegistry.addAll]

theorem outcome_compileDevices (parsers : ParserRegistry) (lookup : Option PeripheralRegistry)
    (devices : List Entity) :
    (compileDevices parsers lookup devices).outcome =
      match (deviceChecks parsers lookup devices).findSome? id with
      | some e => .error e
      | none => .ok (devices.filterMap (Entity.compiledDevice? parsers lookup)) := by
  induction devices with
  | nil => rfl
  | cons e rest ih =>
      rw [outcome_compileDevices_cons, ih, deviceChecks_cons]
      cases parsed : e.asDevice parsers lookup with
      | error error => simp
      | ok descriptor =>
          rw [List.filterMap_cons_some (Entity.compiledDevice?_of_ok parsed), refusal?_ok,
            List.findSome?_cons]
          cases (deviceChecks parsers lookup rest).findSome? id <;> rfl

/-- The outcome of a compilation is the first check that refuses, or else the
board as compiled. -/
theorem outcome_compile (board : Board) (parsers : ParserRegistry) (mode : Mode) :
    (board.compile parsers mode).outcome =
      match (board.checks parsers mode).findSome? id with
      | some e => .error e
      | none => .ok (board.compiled parsers mode) := by
  have registered := outcome_registerPeripherals parsers board.peripherals .empty []
    (fun name => by simp [PeripheralRegistry.empty, PeripheralRegistry.contains])
  have devices := outcome_compileDevices parsers
    (mode.lookup (board.registry parsers)) board.devices
  rw [checks, List.findSome?_append]
  cases first : (peripheralChecks parsers [] board.peripherals).findSome? id with
  | some refused =>
      rw [first] at registered
      simp [compile, Logged.outcome_bind, registered, Except.bind]
  | none =>
      rw [first] at registered
      change (registerPeripherals parsers .empty board.peripherals).outcome =
        .ok (board.registry parsers) at registered
      cases second : (deviceChecks parsers (mode.lookup (board.registry parsers))
          board.devices).findSome? id with
      | some refused =>
          rw [second] at devices
          simp [compile, Logged.outcome_bind, registered, devices, Except.bind]
      | none =>
          rw [second] at devices
          simp [compile, Logged.outcome_bind, registered, devices, Except.bind, compiled]

/-! ## When no check refuses -/

theorem peripheralChecks_pass_iff (entities : List Entity) :
    ∀ taken : List String, (peripheralChecks parsers taken entities).findSome? id = none ↔
      (∀ e ∈ entities, ∃ descriptor, e.asPeripheral parsers = .ok descriptor) ∧
        (entities.map Entity.name).Nodup ∧ ∀ e ∈ entities, e.name ∉ taken := by
  induction entities with
  | nil => simp [peripheralChecks]
  | cons e rest ih =>
      intro taken
      have tail := ih (e.name :: taken)
      simp only [List.findSome?_eq_none_iff, id] at tail ⊢
      rw [peripheralChecks]
      simp only [List.forall_mem_cons, refusal?_eq_none_iff, tail, ite_eq_right_iff, reduceCtorEq,
        imp_false, List.map_cons, List.nodup_cons, List.mem_map]
      simp only [List.mem_cons, not_or]
      constructor
      · rintro ⟨parses, new, parse, nodup, fresh⟩
        refine ⟨⟨parses, parse⟩, ⟨?_, nodup⟩, new, fun f member => (fresh f member).2⟩
        rintro ⟨f, member, same⟩
        exact (fresh f member).1 same
      · rintro ⟨⟨parses, parse⟩, ⟨once, nodup⟩, new, fresh⟩
        refine ⟨parses, new, parse, nodup, fun f member => ⟨?_, fresh f member⟩⟩
        intro same
        exact once ⟨f, member, same⟩

theorem deviceChecks_pass_iff (lookup : Option PeripheralRegistry) (devices : List Entity) :
    (deviceChecks parsers lookup devices).findSome? id = none ↔
      ∀ e ∈ devices, ∃ descriptor, e.asDevice parsers lookup = .ok descriptor := by
  simp [deviceChecks, List.findSome?_eq_none_iff, refusal?_eq_none_iff]

/-- The first device that is refused decides, and those before it parse. -/
theorem deviceChecks_refuse_iff {lookup : Option PeripheralRegistry} {devices : List Entity}
    {error : EntityError} :
    (deviceChecks parsers lookup devices).findSome? id = some error ↔
      ∃ before e after, devices = before ++ e :: after ∧
        (∀ d ∈ before, ∃ descriptor, d.asDevice parsers lookup = .ok descriptor) ∧
        e.asDevice parsers lookup = .error error := by
  rw [deviceChecks, List.findSome?_map, List.findSome?_eq_some_iff]
  simp only [Function.comp, id, refusal?_eq_some_iff, refusal?_eq_none_iff]
  constructor
  · rintro ⟨before, e, after, split, refuses, pass⟩
    exact ⟨before, e, after, split, pass, refuses⟩
  · rintro ⟨before, e, after, split, pass, refuses⟩
    exact ⟨before, e, after, split, refuses, pass⟩

theorem checks_pass_iff (board : Board) (mode : Mode) :
    (board.checks parsers mode).findSome? id = none ↔
      (∀ e ∈ board.peripherals, ∃ descriptor, e.asPeripheral parsers = .ok descriptor) ∧
        (board.peripherals.map Entity.name).Nodup ∧
        ∀ e ∈ board.devices, ∃ descriptor,
          e.asDevice parsers (mode.lookup (board.registry parsers)) = .ok descriptor := by
  rw [checks, List.findSome?_append, Option.or_eq_none_iff, peripheralChecks_pass_iff,
    deviceChecks_pass_iff]
  simp [and_assoc]

/-- A board that compiles passes its checks. -/
theorem compile_ok_iff {board : Board} {mode : Mode} {out : CompiledBoard} :
    (board.compile parsers mode).outcome = .ok out ↔
      (board.checks parsers mode).findSome? id = none ∧ out = board.compiled parsers mode := by
  rw [outcome_compile]
  cases first : (board.checks parsers mode).findSome? id <;> simp [eq_comm]

theorem compile_error_iff {board : Board} {mode : Mode} {error : EntityError} :
    (board.compile parsers mode).outcome = .error error ↔
      (board.checks parsers mode).findSome? id = some error := by
  rw [outcome_compile]
  cases first : (board.checks parsers mode).findSome? id <;> simp

/-- The refusal that the peripherals of a board end in, if any is refused. -/
def peripheralRefusal? (board : Board) (parsers : ParserRegistry) : Option EntityError :=
  (peripheralChecks parsers [] board.peripherals).findSome? id

/-- The checks on peripherals behind others count the names of those as taken. -/
theorem peripheralChecks_append (before after : List Entity) :
    ∀ taken : List String, peripheralChecks parsers taken (before ++ after) =
      peripheralChecks parsers taken before ++
        peripheralChecks parsers ((before.map Entity.name).reverse ++ taken) after := by
  induction before with
  | nil => simp [peripheralChecks]
  | cons e rest ih =>
      intro taken
      rw [List.cons_append, peripheralChecks, ih (e.name :: taken), peripheralChecks]
      simp

/-- The first peripheral with a name that is taken is refused as a duplicate, if all
parse as far as that. -/
theorem peripheralRefusal?_of_duplicate {board : Board} {before after : List Entity} {e : Entity}
    (split : board.peripherals = before ++ e :: after)
    (parse : ∀ d ∈ before ++ [e], ∃ descriptor, d.asPeripheral parsers = .ok descriptor)
    (nodup : (before.map Entity.name).Nodup) (taken : e.name ∈ before.map Entity.name) :
    board.peripheralRefusal? parsers = some ⟨e.name, e.kind, .duplicate⟩ := by
  have pass : (peripheralChecks parsers [] before).findSome? id = none := by
    refine (peripheralChecks_pass_iff before []).mpr ⟨fun d member => ?_, nodup, by simp⟩
    exact parse d (by simp [member])
  obtain ⟨descriptor, parsed⟩ := parse e (by simp)
  have counted : e.name ∈ (before.map Entity.name).reverse ++ [] := by simpa using taken
  rw [peripheralRefusal?, split, peripheralChecks_append, List.findSome?_append, pass,
    Option.none_or, peripheralChecks, parsed, if_pos counted]
  rfl

/-- A refusal is that of a peripheral, or that of a device when no peripheral is refused. -/
theorem compile_error_cases {board : Board} {mode : Mode} {error : EntityError} :
    (board.compile parsers mode).outcome = .error error ↔
      board.peripheralRefusal? parsers = some error ∨
        board.peripheralRefusal? parsers = none ∧
          (deviceChecks parsers (mode.lookup (board.registry parsers)) board.devices).findSome? id =
            some error := by
  rw [compile_error_iff, checks, List.findSome?_append, Option.or_eq_some_iff]
  rfl

end Board

end BoardCompiler
