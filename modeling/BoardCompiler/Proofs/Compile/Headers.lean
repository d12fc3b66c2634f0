/-
# BoardCompiler.Proofs.Compile.Headers — which headers a board includes

A board that compiles includes the headers of its entities' type tags, entity after entity
and peripherals first, each header at its first place only (`includes_first_seen`).

The headers of a tag are the peripheral parser's where the tag has one, whatever the entity
is. So an entity's own parser is the one whose headers are included, unless the entity is a
device and a peripheral parser is registered under the same tag: then that parser's headers
stand for it (`includes_supplied`).
-/
import BoardCompiler.Proofs.Compile.Includes
import BoardCompiler.Proofs.Compile.References
import BoardCompiler.Proofs.Registrations

namespace BoardCompiler

set_option autoImplicit false

variable {parsers : ParserRegistry} {mode : Mode} {board : Board} {out : CompiledBoard}

/-- The headers of the entity's type tag. -/
def Entity.headers? (parsers : ParserRegistry) (e : Entity) : Option (List String) :=
  e.raw.typeTag?.bind parsers.includes?

namespace Board

def entities (board : Board) : List Entity := board.peripherals ++ board.devices

/-- The headers of all entities' tags, one entity after another. -/
def headers (parsers : ParserRegistry) (board : Board) : List String :=
  board.entities.flatMap fun e => (e.headers? parsers).getD []

/-! ## Tags and their headers -/

theorem headers?_of_compilesTo {category : Category}
    {dispatch : String → Option (String → RawConfig → Except EntityError StructDescriptor)}
    {e : Entity} {c : CompiledEntity} (compiles : CompilesTo category dispatch e c) :
    e.headers? parsers = parsers.includes? c.kind := by
  rw [Entity.headers?, compiles.tag, Option.bind_some]

theorem flatMap_headers_of_compilesTo {category : Category}
    {dispatch : String → Option (String → RawConfig → Except EntityError StructDescriptor)}
    {entities : List Entity} {outs : List CompiledEntity}
    (related : List.Forall₂ (CompilesTo category dispatch) entities outs) :
    outs.flatMap (CompiledEntity.headers parsers) =
      entities.flatMap fun e => (e.headers? parsers).getD [] := by
  induction related with
  | nil => rfl
  | cons head _ ih =>
      rw [List.flatMap_cons, List.flatMap_cons, ih, headers?_of_compilesTo head]
      rfl

/-- The includes are the headers of the entities, each at its first place. -/
theorem includes_of_ok (compiles : (board.compile parsers mode).outcome = .ok out) :
    out.includes = (board.headers parsers).eraseDups := by
  have compiled := compiles_of_ok compiles
  obtain ⟨-, rfl⟩ := compile_ok_iff.mp compiles
  have entities := includesOf_eq parsers
    ((board.compiled parsers mode).peripherals ++ (board.compiled parsers mode).devices)
  rw [List.flatMap_append, flatMap_headers_of_compilesTo compiled.peripherals,
    flatMap_headers_of_compilesTo compiled.devices, ← List.flatMap_append] at entities
  exact entities

/-! ## Parsers and their headers -/

/-- The headers of a tag are the peripheral parser's, or else the device parser's. -/
theorem mem_headers?_iff {e : Entity} {h : String} :
    (∃ headers ∈ e.headers? parsers, h ∈ headers) ↔
      ∃ tag, e.raw.typeTag? = some tag ∧
        ((∃ parser, parsers.peripherals.get? tag = some parser ∧ h ∈ parser.includes) ∨
          parsers.peripherals.get? tag = none ∧
            ∃ parser, parsers.devices.get? tag = some parser ∧ h ∈ parser.includes) := by
  rw [Entity.headers?]
  cases e.raw.typeTag? with
  | none => simp
  | some tag =>
      simp only [Option.bind_some, ParserRegistry.includes?, Option.some.injEq, exists_eq_left']
      cases parsers.peripherals.get? tag with
      | some parser => simp
      | none => cases parsers.devices.get? tag <;> simp

/-- A peripheral of a board that compiles, and the parser that parsed it. -/
theorem peripheral_parser_of_ok (compiles : (board.compile parsers mode).outcome = .ok out)
    {e : Entity} (member : e ∈ board.peripherals) :
    ∃ tag parser, e.raw.typeTag? = some tag ∧ parsers.peripherals.get? tag = some parser ∧
      ∃ descriptor, (parser.parse e.name e.raw).outcome = .ok descriptor := by
  obtain ⟨pass, -⟩ := compile_ok_iff.mp compiles
  obtain ⟨parse, -, -⟩ := (checks_pass_iff board mode).mp pass
  obtain ⟨descriptor, parsed⟩ := parse e member
  obtain ⟨tag, parser, tagged, found, accepted⟩ := ParserRegistry.parsePeripheral_ok_iff.mp parsed
  exact ⟨tag, parser, tagged, found, descriptor, accepted⟩

/-- A device of a board that compiles, and the parser that parsed it. -/
theorem device_parser_of_ok (compiles : (board.compile parsers mode).outcome = .ok out)
    {e : Entity} (member : e ∈ board.devices) :
    ∃ tag parser, e.raw.typeTag? = some tag ∧ parsers.devices.get? tag = some parser ∧
      ∃ descriptor, (parser.parse e.name e.raw (mode.lookup (board.registry parsers))).outcome =
        .ok descriptor := by
  obtain ⟨pass, -⟩ := compile_ok_iff.mp compiles
  obtain ⟨-, -, parse⟩ := (checks_pass_iff board mode).mp pass
  obtain ⟨descriptor, parsed⟩ := parse e member
  obtain ⟨tag, parser, tagged, found, accepted⟩ := ParserRegistry.parseDevice_ok_iff.mp parsed
  exact ⟨tag, parser, tagged, found, descriptor, accepted⟩

/-- Every entity of a board that compiles has a tag with headers. -/
theorem headers?_of_ok (compiles : (board.compile parsers mode).outcome = .ok out) :
    ∀ e ∈ board.entities, ∃ headers, e.headers? parsers = some headers := by
  intro e member
  rcases List.mem_append.mp member with peripheral | device
  · obtain ⟨tag, parser, tagged, found, -⟩ := peripheral_parser_of_ok compiles peripheral
    exact ⟨parser.includes, by simp [Entity.headers?, tagged, ParserRegistry.includes?, found]⟩
  · obtain ⟨tag, parser, tagged, found, -⟩ := device_parser_of_ok compiles device
    cases shadow : parsers.peripherals.get? tag with
    | some other =>
        exact ⟨other.includes, by simp [Entity.headers?, tagged, ParserRegistry.includes?, shadow]⟩
    | none =>
        exact ⟨parser.includes,
          by simp [Entity.headers?, tagged, ParserRegistry.includes?, shadow, found]⟩

theorem mem_includes_iff (compiles : (board.compile parsers mode).outcome = .ok out) (h : String) :
    h ∈ out.includes ↔ ∃ e ∈ board.entities, ∃ headers ∈ e.headers? parsers, h ∈ headers := by
  rw [includes_of_ok compiles, List.mem_eraseDups, headers, List.mem_flatMap]
  refine exists_congr fun e => and_congr_right fun _ => ?_
  cases e.headers? parsers <;> simp

/-! ## The includes of a board -/

/-- The includes are the headers of the entities' tags at their first places: each header
of a tag is there, once, no other is, and the order is that in which they first occur. -/
theorem includes_first_seen (compiles : (board.compile parsers mode).outcome = .ok out) :
    (∀ e ∈ board.entities, ∃ headers, e.headers? parsers = some headers) ∧
      out.includes = (board.headers parsers).eraseDups ∧
      out.includes.Nodup ∧
      (∀ h, h ∈ out.includes ↔
        ∃ e ∈ board.entities, ∃ headers ∈ e.headers? parsers, h ∈ headers) ∧
      ∀ h h', out.includes.idxOf h < out.includes.idxOf h' ↔
        (board.headers parsers).idxOf h < (board.headers parsers).idxOf h' := by
  refine ⟨headers?_of_ok compiles, includes_of_ok compiles, ?_, mem_includes_iff compiles, ?_⟩
  · rw [includes_of_ok compiles]
    exact nodup_eraseDups _
  · intro h h'
    rw [includes_of_ok compiles]
    exact idxOf_eraseDups_lt_iff h h' _

/-- Two buttons, each on a pin of its own. -/
def twoButtons : Board where
  peripherals := ["gpio-0", "gpio-1"].map fun name =>
    ⟨name, ⟨.mapping [(.string "name", .string name), (.string "type", .string "gpio")]⟩⟩
  devices := ["gpio-1", "gpio-0"].map fun pin =>
    ⟨"on " ++ pin, ⟨.mapping
      [(.string "name", .string ("on " ++ pin)), (.string "type", .string "gpio_ctrl"),
       (.string "peripherals", .sequence [.string pin])]⟩⟩

/-- Four entities of two types include two headers. -/
theorem twoButtons_includes :
    ∃ out, (twoButtons.compile Builtin.parsers .check).outcome = .ok out ∧
      twoButtons.headers Builtin.parsers =
        ["driver/gpio.h", "driver/gpio.h", "dev_gpio_ctrl.h", "dev_gpio_ctrl.h"] ∧
      out.includes = (twoButtons.headers Builtin.parsers).eraseDups ∧
      out.includes = ["driver/gpio.h", "dev_gpio_ctrl.h"] := by
  have compiles : (twoButtons.compile Builtin.parsers .check).outcome = .ok _ := rfl
  exact ⟨_, compiles, rfl, (includes_first_seen compiles).2.1, rfl⟩

/-- Every header of the parser that parsed a peripheral is included, and every header of the
parser that parsed a device, unless a peripheral parser is registered under the device's
tag. Nothing else is included but that parser's headers in place of the device parser's. -/
theorem includes_supplied {registrations : List Registration}
    (compiles : (board.compile (.ofRegistrations registrations) mode).outcome = .ok out) :
    (∀ e ∈ board.peripherals, ∃ tag parser, e.raw.typeTag? = some tag ∧
      ParserRegistry.latestPeripheral? registrations tag = some parser ∧
      (∃ descriptor, (parser.parse e.name e.raw).outcome = .ok descriptor) ∧
      ∀ h ∈ parser.includes, h ∈ out.includes) ∧
    (∀ e ∈ board.devices, ∃ tag parser, e.raw.typeTag? = some tag ∧
      ParserRegistry.latestDevice? registrations tag = some parser ∧
      (∃ descriptor, (parser.parse e.name e.raw
        (mode.lookup (board.registry (.ofRegistrations registrations)))).outcome = .ok descriptor) ∧
      (ParserRegistry.latestPeripheral? registrations tag = none →
        ∀ h ∈ parser.includes, h ∈ out.includes)) ∧
    ∀ h, h ∈ out.includes ↔ ∃ e ∈ board.entities, ∃ tag, e.raw.typeTag? = some tag ∧
      ((∃ parser, ParserRegistry.latestPeripheral? registrations tag = some parser ∧
          h ∈ parser.includes) ∨
        ParserRegistry.latestPeripheral? registrations tag = none ∧
          ∃ parser, ParserRegistry.latestDevice? registrations tag = some parser ∧
            h ∈ parser.includes) := by
  have supplied := fun h => mem_includes_iff compiles h
  simp only [mem_headers?_iff, ParserRegistry.peripherals_ofRegistrations,
    ParserRegistry.devices_ofRegistrations] at supplied
  refine ⟨fun e member => ?_, fun e member => ?_, supplied⟩
  · obtain ⟨tag, parser, tagged, found, parsed⟩ := peripheral_parser_of_ok compiles member
    rw [ParserRegistry.peripherals_ofRegistrations] at found
    refine ⟨tag, parser, tagged, found, parsed, fun h among => (supplied h).mpr ?_⟩
    exact ⟨e, List.mem_append_left _ member, tag, tagged, .inl ⟨parser, found, among⟩⟩
  · obtain ⟨tag, parser, tagged, found, parsed⟩ := device_parser_of_ok compiles member
    rw [ParserRegistry.devices_ofRegistrations] at found
    refine ⟨tag, parser, tagged, found, parsed, fun own h among => (supplied h).mpr ?_⟩
    exact ⟨e, List.mem_append_right _ member, tag, tagged, .inr ⟨own, parser, found, among⟩⟩

/-- Among the built-in types the button's and the light's parsers supply their headers. -/
theorem buttonAndLight_supplied :
    ∃ out, (buttonAndLight.compile (.ofRegistrations Builtin.registrations) .check).outcome =
        .ok out ∧
      ∀ e ∈ buttonAndLight.devices, ∃ tag parser, e.raw.typeTag? = some tag ∧
        ParserRegistry.latestDevice? Builtin.registrations tag = some parser ∧
        ∀ h ∈ parser.includes, h ∈ out.includes := by
  have compiles :
      (buttonAndLight.compile (.ofRegistrations Builtin.registrations) .check).outcome = .ok _ :=
    rfl
  refine ⟨_, compiles, fun e member => ?_⟩
  obtain ⟨tag, parser, tagged, found, -, own⟩ := (includes_supplied compiles).2.1 e member
  refine ⟨tag, parser, tagged, found, own ?_⟩
  simp only [buttonAndLight, List.mem_cons, List.not_mem_nil, or_false] at member
  rcases member with rfl | rfl <;>
    · cases tagged
      rfl

/-! ## A tag that names two types -/

/-- A peripheral type and a device type of one tag, each with a header of its own. -/
def sharedTag : List Registration :=
  [.peripheral ⟨"both", ["pin.h"], fun _ _ => pure ⟨"pin_t", none, .empty⟩⟩,
   .device ⟨"both", "", ["lamp.h"], fun _ _ _ => pure ⟨"lamp_t", none, .empty⟩⟩]

/-- A board of one device of that tag. -/
def sharedTagDevice : Board where
  peripherals := []
  devices := [⟨"lamp", ⟨.mapping [(.string "type", .string "both")]⟩⟩]

/-- The device compiles without the header of its parser. -/
theorem sharedTagDevice_lacks_header :
    ¬ ∀ (registrations : List Registration) (board : Board) (mode : Mode) (out : CompiledBoard),
      (board.compile (.ofRegistrations registrations) mode).outcome = .ok out →
        ∀ e ∈ board.devices, ∀ tag parser, e.raw.typeTag? = some tag →
          ParserRegistry.latestDevice? registrations tag = some parser →
            ∀ h ∈ parser.includes, h ∈ out.includes := by
  intro always
  have compiles :
      (sharedTagDevice.compile (.ofRegistrations sharedTag) .check).outcome = .ok _ := rfl
  have included := always sharedTag sharedTagDevice .check _ compiles _ (List.mem_singleton_self _)
    "both" _ rfl rfl "lamp.h" (List.mem_singleton_self _)
  exact absurd included (by decide)

end Board

end BoardCompiler
