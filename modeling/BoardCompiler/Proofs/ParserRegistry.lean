/-
# BoardCompiler.Proofs.ParserRegistry — an entity is parsed by the parser of its tag

The outcome of parsing an entity is decided by its type tag: without one the
entity is malformed, a tag that the right table does not have is of unknown type,
and otherwise the parser under the tag decides.
-/
import BoardCompiler.ParserRegistry

namespace BoardCompiler.ParserRegistry

set_option autoImplicit false

variable {parsers : ParserRegistry} {name tag : String} {raw : RawConfig}
  {lookup : Option PeripheralRegistry} {descriptor : StructDescriptor}

theorem outcome_parsePeripheral_of_tag (tagged : raw.typeTag? = some tag) :
    (parsers.parsePeripheral name raw).outcome =
      match parsers.peripherals.get? tag with
      | none => .error ⟨name, tag, .unknownType⟩
      | some parser => (parser.parse name raw).outcome := by
  cases found : parsers.peripherals.get? tag with
  | none => simp [parsePeripheral, requireTag, tagged, found, Logged.outcome_bind, Except.bind]
  | some parser =>
      simp [parsePeripheral, requireTag, tagged, found, Logged.outcome_bind, Except.bind]

theorem outcome_parseDevice_of_tag (tagged : raw.typeTag? = some tag) :
    (parsers.parseDevice name raw lookup).outcome =
      match parsers.devices.get? tag with
      | none => .error ⟨name, tag, .unknownType⟩
      | some parser => (parser.parse name raw lookup).outcome := by
  cases found : parsers.devices.get? tag with
  | none => simp [parseDevice, requireTag, tagged, found, Logged.outcome_bind, Except.bind]
  | some parser => simp [parseDevice, requireTag, tagged, found, Logged.outcome_bind, Except.bind]

theorem outcome_parsePeripheral_of_untyped (untyped : raw.typeTag? = none) :
    (parsers.parsePeripheral name raw).outcome =
      .error ⟨name, untypedKind, .malformed "missing 'type' tag"⟩ := by
  simp [parsePeripheral, requireTag, untyped, Logged.outcome_bind, Except.bind]

theorem outcome_parseDevice_of_untyped (untyped : raw.typeTag? = none) :
    (parsers.parseDevice name raw lookup).outcome =
      .error ⟨name, untypedKind, .malformed "missing 'type' tag"⟩ := by
  simp [parseDevice, requireTag, untyped, Logged.outcome_bind, Except.bind]

/-- A peripheral that parses has a tag, and the parser of that tag accepts it. -/
theorem parsePeripheral_ok_iff :
    (parsers.parsePeripheral name raw).outcome = .ok descriptor ↔
      ∃ tag parser, raw.typeTag? = some tag ∧ parsers.peripherals.get? tag = some parser ∧
        (parser.parse name raw).outcome = .ok descriptor := by
  cases tagged : raw.typeTag? with
  | none => simp [outcome_parsePeripheral_of_untyped tagged]
  | some tag =>
      rw [outcome_parsePeripheral_of_tag tagged]
      cases found : parsers.peripherals.get? tag <;> simp [found]

/-- A device that parses has a tag, and the parser of that tag accepts it. -/
theorem parseDevice_ok_iff :
    (parsers.parseDevice name raw lookup).outcome = .ok descriptor ↔
      ∃ tag parser, raw.typeTag? = some tag ∧ parsers.devices.get? tag = some parser ∧
        (parser.parse name raw lookup).outcome = .ok descriptor := by
  cases tagged : raw.typeTag? with
  | none => simp [outcome_parseDevice_of_untyped tagged]
  | some tag =>
      rw [outcome_parseDevice_of_tag tagged]
      cases found : parsers.devices.get? tag <;> simp [found]

end BoardCompiler.ParserRegistry
