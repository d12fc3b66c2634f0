/-
# BoardCompiler.Proofs.Compile.Modes — what checking references adds

The two modes parse the same peripherals and give the device parsers a registry or
none. A built-in device parser with a registry does what it does without one, or
refuses the reference as undefined (`asDevice_check`); so along a board the run that
checks references stays with the run that does not until the first undefined
reference, and ends there. `check_refines_dryRun` says so of every outcome.
-/
import BoardCompiler.Proofs.Builtin
import BoardCompiler.Proofs.Compile.Outcome

namespace BoardCompiler.Board

set_option autoImplicit false

/-- The first reference of a device names a peripheral of the board. -/
def Declares (board : Board) (e : Entity) : Prop :=
  ∃ ref, e.raw.referredName? = some ref ∧ ref ∈ board.peripherals.map Entity.name

/-- The refusal of a device whose first reference names no peripheral of the board. -/
def Undefined (board : Board) (e : Entity) (error : EntityError) : Prop :=
  ∃ ref, e.raw.referredName? = some ref ∧ ref ∉ board.peripherals.map Entity.name ∧
    error = ⟨e.name, e.raw.writtenKind, .undefinedReference ref⟩

/-! ## One device in both modes -/

/-- Either the parser of the device's tag binds its reference, or there is no such
parser and the device is refused whatever the registry. -/
theorem asDevice_cases (e : Entity) :
    (∃ (parser : DeviceParser) (member : String),
      parser.Binds member ∧ parser.typeName = e.raw.writtenKind ∧
        ∀ lookup, e.asDevice Builtin.parsers lookup = (parser.parse e.name e.raw lookup).outcome) ∨
      ∃ error, ∀ lookup, e.asDevice Builtin.parsers lookup = .error error := by
  cases tagged : e.raw.typeTag? with
  | none =>
      exact .inr ⟨_, fun lookup => ParserRegistry.outcome_parseDevice_of_untyped tagged⟩
  | some tag =>
      cases found : Builtin.parsers.devices.get? tag with
      | none =>
          refine .inr ⟨⟨e.name, tag, .unknownType⟩, fun lookup => ?_⟩
          rw [Entity.asDevice, ParserRegistry.outcome_parseDevice_of_tag tagged, found]
      | some parser =>
          obtain ⟨b, -, kind, of⟩ := Builtin.binding_of_device found
          refine .inl ⟨parser, b.member, of.binds, ?_, fun lookup => ?_⟩
          · rw [of.kind, kind, ← RawConfig.kind_eq]
            exact (Entity.kind_of_tag tagged).symm
          · rw [Entity.asDevice, ParserRegistry.outcome_parseDevice_of_tag tagged, found]

section Device

variable {board : Board} {registry : PeripheralRegistry} {e : Entity}
  (known : ∀ name, registry.contains name = true ↔ name ∈ board.peripherals.map Entity.name)
include known

theorem not_mem_of_unknown {ref : String} (unknown : registry.contains ref = false) :
    ref ∉ board.peripherals.map Entity.name := by
  rw [← known, unknown]
  exact Bool.false_ne_true

/-- With the board's registry a device comes out as it does without, or its first
reference is undefined. -/
theorem asDevice_check (e : Entity) :
    e.asDevice Builtin.parsers (some registry) = e.asDevice Builtin.parsers none ∨
      ∃ error, board.Undefined e error ∧
        e.asDevice Builtin.parsers (some registry) = .error error := by
  rcases asDevice_cases e with ⟨parser, member, binds, kind, parse⟩ | ⟨error, refused⟩
  · rw [parse, parse]
    rcases binds.outcome_parse_some e.name e.raw registry with same | ⟨ref, first, unknown, fails⟩
    · exact .inl same
    · exact .inr ⟨_, ⟨ref, first, not_mem_of_unknown known unknown, kind ▸ rfl⟩, fails⟩
  · exact .inl ((refused _).trans (refused _).symm)

theorem asDevice_of_declares (declares : board.Declares e) :
    e.asDevice Builtin.parsers (some registry) = e.asDevice Builtin.parsers none := by
  rcases asDevice_check known e with same | ⟨error, ⟨ref, first, missing, -⟩, -⟩
  · exact same
  · obtain ⟨other, named, declared⟩ := declares
    cases first.symm.trans named
    exact absurd declared missing

/-- A device that parses without a registry has a first reference, and is refused with
the board's registry if the board does not declare it. -/
theorem asDevice_of_not_declares {descriptor : StructDescriptor}
    (parsed : e.asDevice Builtin.parsers none = .ok descriptor) (undeclared : ¬ board.Declares e) :
    ∃ error, board.Undefined e error ∧
      e.asDevice Builtin.parsers (some registry) = .error error := by
  rcases asDevice_cases e with ⟨parser, member, binds, kind, parse⟩ | ⟨error, refused⟩
  · rw [parse] at parsed ⊢
    obtain ⟨ref, first, -⟩ := binds.reference_of_ok parsed
    have unknown : registry.contains ref = false := by
      rw [← Bool.not_eq_true, known]
      exact fun declared => undeclared ⟨ref, first, declared⟩
    exact ⟨_, ⟨ref, first, not_mem_of_unknown known unknown, kind ▸ rfl⟩,
      binds.undefined_of_ok parsed first unknown⟩
  · cases (refused none).symm.trans parsed

/-! ## The devices of a board in both modes -/

theorem asDevice_ok_of_check {descriptor : StructDescriptor}
    (parsed : e.asDevice Builtin.parsers (some registry) = .ok descriptor) :
    e.asDevice Builtin.parsers none = .ok descriptor := by
  rcases asDevice_check known e with same | ⟨error, -, fails⟩
  · exact same ▸ parsed
  · cases fails.symm.trans parsed

/-- Where the run without a registry is refused at a device, the run with the board's
registry is refused there or at an undefined reference no later. -/
theorem deviceChecks_refused {before : List Entity} {error : EntityError} (after : List Entity)
    (parse : ∀ d ∈ before, ∃ descriptor, d.asDevice Builtin.parsers none = .ok descriptor)
    (refused : e.asDevice Builtin.parsers none = .error error) :
    ∃ first, (deviceChecks Builtin.parsers (some registry) (before ++ e :: after)).findSome? id =
        some first ∧
      (first = error ∨ ∃ d ∈ before ++ [e], board.Undefined d first) := by
  induction before with
  | nil =>
      rcases asDevice_check known e with same | ⟨first, undefined, fails⟩
      · exact ⟨error, by simp [deviceChecks, same, refused], .inl rfl⟩
      · exact ⟨first, by simp [deviceChecks, fails], .inr ⟨e, by simp, undefined⟩⟩
  | cons d rest ih =>
      obtain ⟨descriptor, parsed⟩ := parse d (by simp)
      rcases asDevice_check known d with same | ⟨first, undefined, fails⟩
      · obtain ⟨first, found, reason⟩ := ih fun f member => parse f (List.mem_cons_of_mem d member)
        refine ⟨first, ?_, reason.imp_right ?_⟩
        · simpa [deviceChecks, same, parsed] using found
        · rintro ⟨f, member, undefined⟩
          exact ⟨f, List.mem_cons_of_mem d member, undefined⟩
      · exact ⟨first, by simp [deviceChecks, fails], .inr ⟨d, by simp, undefined⟩⟩

end Device

/-! ## Boards in both modes -/

variable {board : Board} {out : CompiledBoard} {error : EntityError}

/-- The devices come out alike in both modes. -/
def DevicesAgree (board : Board) : Prop :=
  ∀ e ∈ board.devices, e.asDevice Builtin.parsers (some (board.registry Builtin.parsers)) =
    e.asDevice Builtin.parsers none

theorem outcome_compile_of_agree (agree : board.DevicesAgree) :
    (board.compile Builtin.parsers .check).outcome =
      (board.compile Builtin.parsers .dryRun).outcome := by
  have checks : board.checks Builtin.parsers .check = board.checks Builtin.parsers .dryRun := by
    refine congrArg (_ ++ ·) (List.map_congr_left fun e member => ?_)
    exact congrArg refusal? (agree e member)
  have devices : board.devices.filterMap (Entity.compiledDevice? Builtin.parsers
      (some (board.registry Builtin.parsers))) =
        board.devices.filterMap (Entity.compiledDevice? Builtin.parsers none) := by
    refine List.filterMap_congr fun e member => ?_
    rw [Entity.compiledDevice?, agree e member, Entity.compiledDevice?]
  have compiled : board.compiled Builtin.parsers .check =
      board.compiled Builtin.parsers .dryRun := by
    simp only [Board.compiled, Mode.lookup, devices]
  rw [outcome_compile, outcome_compile, checks, compiled]

theorem contains_registry_of_pass (pass : board.peripheralRefusal? Builtin.parsers = none)
    (name : String) : (board.registry Builtin.parsers).contains name = true ↔
      name ∈ board.peripherals.map Entity.name :=
  contains_registry_iff ((peripheralChecks_pass_iff board.peripherals []).mp pass).1 name

theorem dryRun_ok_of_check (compiles : (board.compile Builtin.parsers .check).outcome = .ok out) :
    (board.compile Builtin.parsers .dryRun).outcome = .ok out := by
  have compiled := compiles_of_ok compiles
  obtain ⟨-, -, parse⟩ := (checks_pass_iff board .check).mp (compile_ok_iff.mp compiles).1
  rw [← outcome_compile_of_agree, compiles]
  intro e member
  obtain ⟨descriptor, parsed⟩ := parse e member
  exact parsed.trans (asDevice_ok_of_check compiled.contains_iff parsed).symm

theorem check_ok_of_declares (compiles : (board.compile Builtin.parsers .dryRun).outcome = .ok out)
    (declares : ∀ e ∈ board.devices, board.Declares e) :
    (board.compile Builtin.parsers .check).outcome = .ok out := by
  have compiled := compiles_of_ok compiles
  rw [outcome_compile_of_agree, compiles]
  intro e member
  exact asDevice_of_declares compiled.contains_iff (declares e member)

theorem check_undefined_of_dryRun_ok {before after : List Entity} {e : Entity}
    (compiles : (board.compile Builtin.parsers .dryRun).outcome = .ok out)
    (split : board.devices = before ++ e :: after)
    (declares : ∀ d ∈ before, board.Declares d) (undeclared : ¬ board.Declares e) :
    ∃ error, board.Undefined e error ∧
      (board.compile Builtin.parsers .check).outcome = .error error := by
  have compiled := compiles_of_ok compiles
  have pass := (compile_ok_iff.mp compiles).1
  obtain ⟨-, -, parse⟩ := (checks_pass_iff board .dryRun).mp pass
  obtain ⟨descriptor, parsed⟩ := parse e (by simp [split])
  obtain ⟨error, undefined, fails⟩ :=
    asDevice_of_not_declares compiled.contains_iff parsed undeclared
  refine ⟨error, undefined, compile_error_cases.mpr (.inr ⟨?_, ?_⟩)⟩
  · rw [checks, List.findSome?_append, Option.or_eq_none_iff] at pass
    exact pass.1
  · refine deviceChecks_refuse_iff.mpr ⟨before, e, after, split, ?_, fails⟩
    intro d member
    obtain ⟨descriptor, parsed⟩ := parse d (by simp [split, member])
    exact ⟨descriptor, (asDevice_of_declares compiled.contains_iff (declares d member)).trans parsed⟩

/-- Checking references refines not checking them. A board that compiles with the check
compiles to the same without it. One that compiles without it compiles to the same
with it, or ends at the first device whose first reference the board does not
declare. One that is refused without it is refused with it: on the same ground if
that is a peripheral, and else on the same ground or at an undefined reference of a
device no later. -/
theorem check_refines_dryRun (board : Board) :
    (∀ out, (board.compile Builtin.parsers .check).outcome = .ok out →
      (board.compile Builtin.parsers .dryRun).outcome = .ok out) ∧
    (∀ out, (board.compile Builtin.parsers .dryRun).outcome = .ok out →
      ((∀ e ∈ board.devices, board.Declares e) →
        (board.compile Builtin.parsers .check).outcome = .ok out) ∧
      ∀ before e after, board.devices = before ++ e :: after →
        (∀ d ∈ before, board.Declares d) → ¬ board.Declares e →
        ∃ error, board.Undefined e error ∧
          (board.compile Builtin.parsers .check).outcome = .error error) ∧
    ∀ error, (board.compile Builtin.parsers .dryRun).outcome = .error error →
      (board.peripheralRefusal? Builtin.parsers = some error ∧
        (board.compile Builtin.parsers .check).outcome = .error error) ∨
      (board.peripheralRefusal? Builtin.parsers = none ∧
        ∃ before e after, board.devices = before ++ e :: after ∧
          (∀ d ∈ before, ∃ descriptor, d.asDevice Builtin.parsers none = .ok descriptor) ∧
          e.asDevice Builtin.parsers none = .error error ∧
          ∃ first, (board.compile Builtin.parsers .check).outcome = .error first ∧
            (first = error ∨ ∃ d ∈ before ++ [e], board.Undefined d first)) := by
  refine ⟨fun _ => dryRun_ok_of_check, fun out compiles => ⟨check_ok_of_declares compiles, ?_⟩, ?_⟩
  · intro before e after split declares undeclared
    exact check_undefined_of_dryRun_ok compiles split declares undeclared
  · intro error refused
    rcases compile_error_cases.mp refused with peripheral | ⟨pass, device⟩
    · exact .inl ⟨peripheral, compile_error_cases.mpr (.inl peripheral)⟩
    · obtain ⟨before, e, after, split, parse, fails⟩ := deviceChecks_refuse_iff.mp device
      obtain ⟨first, found, reason⟩ :=
        deviceChecks_refused (contains_registry_of_pass pass) after parse fails
      refine .inr ⟨pass, before, e, after, split, parse, fails, first, ?_, reason⟩
      exact compile_error_cases.mpr (.inr ⟨pass, split ▸ found⟩)

end BoardCompiler.Board
