/-
# BoardCompiler.Proofs.EntityChecks — which check refuses an entity

The checks that an entity has to pass, in order: a type tag, a type of that tag, for
devices a reference to a peripheral of the family, a configuration of the right shape,
and the fields of the type one after another (`peripheralChecks`, `deviceChecks`).
Each of them is written from the shape of the YAML value and from the layouts, and
passes where there is nothing for it to look at. The built-in types make exactly these
checks in this order, so the first to refuse is the error, and the error names the
entity and its type tag (`error_is_first_refusal`).
-/
import BoardCompiler.Proofs.Builtin
import BoardCompiler.Proofs.Layout.Builtin
import BoardCompiler.Proofs.Layout.Checks
import BoardCompiler.Proofs.ParserRegistry

namespace BoardCompiler

set_option autoImplicit false

open Yaml (Value)

namespace RawConfig

/-! ## The checks -/

/-- There is a type tag. -/
def tagFault? (raw : RawConfig) : Option ErrorCause :=
  if raw.writtenTag?.isSome then none else some (.malformed "missing 'type' tag")

/-- What a table has under the entity's type tag. -/
def known? {δ : Type} (table : List (String × δ)) (raw : RawConfig) : Option δ :=
  raw.writtenTag?.bind fun tag => table.lookup tag

/-- The type tag is one of the table. -/
def typeFault? {δ : Type} (table : List (String × δ)) (raw : RawConfig) : Option ErrorCause :=
  if (raw.known? table).isSome then none else some .unknownType

/-- `peripherals` is absent, null or a sequence. -/
def listFault? (raw : RawConfig) : Option ErrorCause :=
  match raw.entry? "peripherals" with
  | none | some .null | some (.sequence _) => none
  | some other =>
      some (.malformed ("'peripherals' must be a sequence, found " ++ other.describe))

/-- The first entry, if there is one, is a reference. -/
def formFault? (raw : RawConfig) : Option ErrorCause :=
  match raw.firstEntry? with
  | none => none
  | some first =>
      if (PeripheralRef.ofValue? first).isSome then none
      else some (.malformed
        ("peripheral reference must be a name or a mapping with a 'name' key, found " ++
          first.describe))

/-- There is a first entry. -/
def absenceFault? (raw : RawConfig) : Option ErrorCause :=
  if raw.firstEntry?.isSome then none else some .missingReference

/-- The name starts with that of the family. -/
def familyFault? (family : String) (raw : RawConfig) : Option ErrorCause :=
  raw.referredName?.bind fun name =>
    if inFamily family name then none else some (.wrongFamily name family)

/-- The name is registered, where there is a registry. -/
def registryFault? (lookup : Option PeripheralRegistry) (raw : RawConfig) : Option ErrorCause :=
  lookup.bind fun registry => raw.referredName?.bind fun name =>
    if registry.contains name then none else some (.undefinedReference name)

/-- `config` is absent, null or a mapping. -/
def configFault? (raw : RawConfig) : Option ErrorCause :=
  match raw.entry? "config" with
  | none | some .null | some (.mapping _) => none
  | some other => some (.malformed ("'config' must be a mapping, found " ++ other.describe))

/-- The checks of a device's reference. -/
def referenceChecks (family : String) (lookup : Option PeripheralRegistry) (raw : RawConfig) :
    List (Option ErrorCause) :=
  [raw.listFault?, raw.formFault?, raw.absenceFault?, raw.familyFault? family,
    raw.registryFault? lookup]

/-- The checks of the configuration: its shape, then the fields in their order. -/
def configChecks (specs : List FieldSpec) (raw : RawConfig) : List (Option ErrorCause) :=
  raw.configFault? :: specs.map fun spec => (spec.fault? raw.settings).map .field

end RawConfig

/-- What a device type asks for: the family of its peripheral, and its fields. -/
structure DeviceDemands where
  family : String
  fields : List FieldSpec

/-- The fields of the peripheral types. -/
def peripheralDemands : List (String × List FieldSpec) :=
  Layout.peripherals.map fun entry => (entry.1, entry.2.fields)

/-- What the device types ask for. -/
def deviceDemands : List (String × DeviceDemands) :=
  [("gpio_ctrl", ⟨"gpio", [Layout.flag "active_level" 0, Layout.flag "default_level" 0]⟩),
   ("ledc_ctrl", ⟨"ledc", [.integer "default_percent" 100 (.inRange 0 100) .integer]⟩)]

namespace RawConfig

/-- All checks of a peripheral, in order. -/
def peripheralChecks (raw : RawConfig) : List (Option ErrorCause) :=
  raw.tagFault? :: raw.typeFault? peripheralDemands ::
    match raw.known? peripheralDemands with
    | none => []
    | some fields => raw.configChecks fields

/-- All checks of a device, in order. -/
def deviceChecks (lookup : Option PeripheralRegistry) (raw : RawConfig) :
    List (Option ErrorCause) :=
  raw.tagFault? :: raw.typeFault? deviceDemands ::
    match raw.known? deviceDemands with
    | none => []
    | some demands =>
        raw.referenceChecks demands.family lookup ++ raw.configChecks demands.fields

end RawConfig

/-! ## Steps of a parser -/

section Steps

variable {raw : RawConfig} {entries : List (Value × Value)}

theorem decides_firstPeripheral (shape : raw.value = .mapping entries) :
    Decides [raw.listFault?, raw.formFault?] raw.firstPeripheral := by
  have under := RawConfig.get_of_mapping shape "peripherals"
  unfold RawConfig.listFault? RawConfig.formFault? RawConfig.firstEntry?
    RawConfig.firstPeripheral RawConfig.peripherals
  rw [under]
  cases raw.entry? "peripherals" with
  | none => exact .cons_none (.cons_none (.of_ok _))
  | some value =>
      cases value with
      | null => exact .cons_none (.cons_none (.of_ok _))
      | sequence items =>
          cases items with
          | nil => exact .cons_none (.cons_none (.of_ok _))
          | cons first rest =>
              cases form : PeripheralRef.ofValue? first with
              | none => simp [form, PeripheralRef.ofValue, Decides, Except.map]
              | some ref => simp [form, PeripheralRef.ofValue, Decides, Except.map]
      | _ => exact .of_error _ _

/-- A device's reference is checked for its shape, then for its name. -/
theorem decides_resolveFirst (shape : raw.value = .mapping entries) (family : String)
    (lookup : Option PeripheralRegistry) :
    Decides (raw.referenceChecks family lookup) (resolveFirst raw family lookup).outcome := by
  have steps : (resolveFirst raw family lookup).outcome = raw.firstPeripheral.bind fun pair =>
      pair.1.elim (.error .missingReference) fun ref =>
        if !inFamily family ref.name then .error (.wrongFamily ref.name family)
        else if (lookup.map fun r => r.contains ref.name).getD true then .ok ref.name
        else .error (.undefinedReference ref.name) := by
    rw [outcome_resolveFirst]
    rcases raw.firstPeripheral with cause | ⟨_ | ref, count⟩ <;> rfl
  rw [steps]
  refine (decides_firstPeripheral shape).bind
    [raw.absenceFault?, raw.familyFault? family, raw.registryFault? lookup] ?_
  rintro ⟨found, count⟩ first
  have name : raw.referredName? = found.map PeripheralRef.name := by
    rw [RawConfig.referredName?_eq, first]
    rfl
  simp only [RawConfig.absenceFault?, RawConfig.familyFault?, RawConfig.registryFault?,
    RawConfig.isSome_firstEntry? first, name]
  cases found with
  | none => exact .of_error _ _
  | some ref =>
      by_cases inside : inFamily family ref.name = true
      · cases lookup with
        | none => simp [inside, Decides]
        | some registry =>
            by_cases known : registry.contains ref.name = true <;>
              simp [inside, known, Decides]
      · simp [inside, Decides]

theorem decides_fields (shape : raw.value = .mapping entries) :
    Decides [raw.configFault?] raw.fields := by
  unfold RawConfig.configFault? RawConfig.fields
  rw [RawConfig.get_of_mapping shape "config"]
  cases raw.entry? "config" with
  | none => exact .cons_none (.of_ok _)
  | some value =>
      cases value with
      | null => exact .cons_none (.of_ok _)
      | mapping config => exact .cons_none (.of_ok _)
      | _ => exact .of_error _ _

theorem decides_readConfig {α : Type} {reader : FieldReader α} {specs : List FieldSpec}
    (reads : reader.Reads specs) (shape : raw.value = .mapping entries) (name kind : String) :
    Decides (raw.configChecks specs) (readConfig name kind raw reader).outcome := by
  have steps : (readConfig name kind raw reader).outcome =
      raw.fields.bind fun fields => (reader.runOn fields).1.mapError .field := by
    cases read : raw.fields with
    | error cause => simp [readConfig, read, Logged.outcome_bind, Except.bind]
    | ok fields => exact outcome_readConfig_of_fields read
  rw [steps]
  refine (decides_fields shape).bind
    (specs.map fun spec => (spec.fault? raw.settings).map .field) ?_
  intro fields read
  obtain ⟨-, rfl⟩ := RawConfig.fields_eq_ok_iff.mp read
  have decides := (reads (.ofEntries raw.settings)).mapError ErrorCause.field
  rw [List.map_map] at decides
  exact decides

end Steps

/-! ## Types -/

/-- The parser makes the checks of these fields, and names the entity and its own type
in a refusal. -/
def PeripheralParser.Checks (parser : PeripheralParser) (specs : List FieldSpec) : Prop :=
  ∀ name raw entries, raw.value = .mapping entries →
    Decides ((raw.configChecks specs).map (Option.map (EntityError.mk name parser.typeName)))
      (parser.parse name raw).outcome

/-- The parser makes these checks of the reference and of the fields. -/
def DeviceParser.Checks (parser : DeviceParser) (demands : DeviceDemands) : Prop :=
  ∀ name raw lookup entries, raw.value = .mapping entries →
    Decides
      ((raw.referenceChecks demands.family lookup ++ raw.configChecks demands.fields).map
        (Option.map (EntityError.mk name parser.typeName)))
      (parser.parse name raw lookup).outcome

section OfReader

variable {α : Type} {kind family : String} {includes : List String} {reader : FieldReader α}
  {specs : List FieldSpec}

theorem PeripheralParser.ofReader_checks (reads : reader.Reads specs)
    (descriptor : α → StructDescriptor) :
    (ofReader kind includes reader descriptor).Checks specs := by
  intro name raw entries shape
  have outcome : ((ofReader kind includes reader descriptor).parse name raw).outcome =
      ((readConfig name kind raw reader).outcome.map descriptor).mapError
        (EntityError.mk name kind) := by
    rw [← Logged.outcome_map]
    rfl
  rw [outcome]
  exact ((decides_readConfig reads shape name kind).map descriptor).mapError _

theorem DeviceParser.ofReader_checks (reads : reader.Reads specs)
    (descriptor : String → String → α → StructDescriptor) :
    (ofReader kind family includes reader descriptor).Checks ⟨family, specs⟩ := by
  intro name raw lookup entries shape
  have outcome : ((ofReader kind family includes reader descriptor).parse name raw lookup).outcome =
      ((resolveFirst raw family lookup).outcome.bind fun reference =>
        (readConfig name kind raw reader).outcome.map (descriptor name reference)).mapError
          (EntityError.mk name kind) := by
    simp only [← Logged.outcome_map, ← Logged.outcome_bind]
    rfl
  rw [outcome]
  refine Decides.mapError _ ((decides_resolveFirst shape family lookup).bind _ ?_)
  intro reference _
  exact (decides_readConfig reads shape name kind).map _

end OfReader

/-! ## Reader by reader -/

section Readers

open FieldReader

theorem gpio_reads : Gpio.reader.Reads Layout.gpio.fields :=
  reads_integer_bind (by decide) fun _ => reads_choice_bind rfl (by decide) fun _ =>
    reads_boolean_bind fun _ => reads_boolean_bind fun _ =>
      reads_choice_bind rfl (by decide) fun _ => reads_pure _

theorem ldo_reads : Ldo.reader.Reads Layout.ldo.fields :=
  reads_integer_bind (by decide) fun _ => reads_integer_bind (by decide) fun _ =>
    reads_flag_bind (by decide) fun _ => reads_flag_bind (by decide) fun _ => reads_pure _

theorem sdm_reads : Sdm.reader.Reads Layout.sdm.fields :=
  reads_integer_bind (by decide) fun _ => reads_choice_bind rfl (by decide) fun _ =>
    reads_integer_bind (by decide) fun _ => reads_boolean_bind fun _ =>
      reads_boolean_bind fun _ => reads_pure _

theorem ledc_reads : Ledc.reader.Reads Layout.ledc.fields :=
  reads_integer_bind (by decide) fun _ => reads_choice_bind rfl (by decide) fun _ =>
    reads_integer_bind (by decide) fun _ => reads_integer_bind (by decide) fun _ =>
      reads_integer_bind (by decide) fun _ => reads_integer_bind (by decide) fun _ =>
        reads_flag_bind (by decide) fun _ => reads_pure _

theorem gpioCtrl_reads :
    GpioCtrl.reader.Reads [Layout.flag "active_level" 0, Layout.flag "default_level" 0] :=
  reads_flag_bind (by decide) fun _ => reads_flag_bind (by decide) fun _ => reads_pure _

theorem ledcCtrl_reads :
    LedcCtrl.reader.Reads [.integer "default_percent" 100 (.inRange 0 100) .integer] :=
  reads_integer_bind (by decide) fun _ => reads_pure _

end Readers

/-! ## Dispatch -/

/-- A tag is that of a built-in peripheral type, which makes the checks of its fields, or
neither table has it. -/
theorem peripheral_known (tag : String) :
    (∃ parser specs, Builtin.parsers.peripherals.get? tag = some parser ∧
        peripheralDemands.lookup tag = some specs ∧ parser.typeName = tag ∧
        parser.Checks specs) ∨
      Builtin.parsers.peripherals.get? tag = none ∧ peripheralDemands.lookup tag = none := by
  by_cases gpio : tag = "gpio"
  · subst gpio
    exact .inl ⟨Gpio.parser, Layout.gpio.fields, rfl, rfl, rfl,
      PeripheralParser.ofReader_checks gpio_reads _⟩
  by_cases ldo : tag = "ldo"
  · subst ldo
    exact .inl ⟨Ldo.parser, Layout.ldo.fields, rfl, rfl, rfl,
      PeripheralParser.ofReader_checks ldo_reads _⟩
  by_cases sdm : tag = "sdm"
  · subst sdm
    exact .inl ⟨Sdm.parser, Layout.sdm.fields, rfl, rfl, rfl,
      PeripheralParser.ofReader_checks sdm_reads _⟩
  by_cases ledc : tag = "ledc"
  · subst ledc
    exact .inl ⟨Ledc.parser, Layout.ledc.fields, rfl, rfl, rfl,
      PeripheralParser.ofReader_checks ledc_reads _⟩
  right
  constructor
  · simp [SortedTable.get?, Builtin.entries_peripherals, Ne.symm gpio, Ne.symm ldo, Ne.symm sdm,
      Ne.symm ledc]
  · simp [peripheralDemands, Layout.peripherals, gpio, ldo, sdm, ledc]

/-- A tag is that of a built-in device type, which makes the checks that are asked for, or
neither table has it. -/
theorem device_known (tag : String) :
    (∃ parser demands, Builtin.parsers.devices.get? tag = some parser ∧
        deviceDemands.lookup tag = some demands ∧ parser.typeName = tag ∧
        parser.Checks demands) ∨
      Builtin.parsers.devices.get? tag = none ∧ deviceDemands.lookup tag = none := by
  by_cases gpio : tag = "gpio_ctrl"
  · subst gpio
    exact .inl ⟨GpioCtrl.parser, _, rfl, rfl, rfl, DeviceParser.ofReader_checks gpioCtrl_reads _⟩
  by_cases ledc : tag = "ledc_ctrl"
  · subst ledc
    exact .inl ⟨LedcCtrl.parser, _, rfl, rfl, rfl, DeviceParser.ofReader_checks ledcCtrl_reads _⟩
  right
  constructor
  · simp [SortedTable.get?, Builtin.entries_devices, Ne.symm gpio, Ne.symm ledc]
  · simp [deviceDemands, gpio, ledc]

section Dispatch

variable {name : String} {raw : RawConfig}

theorem decides_parsePeripheral :
    Decides (raw.peripheralChecks.map (Option.map (EntityError.mk name raw.writtenKind)))
      (Builtin.parsers.parsePeripheral name raw).outcome := by
  cases written : raw.writtenTag? with
  | none =>
      rw [ParserRegistry.outcome_parsePeripheral_of_untyped (raw.typeTag?_eq.trans written)]
      simp only [RawConfig.peripheralChecks, RawConfig.tagFault?, RawConfig.writtenKind, written]
      exact .of_error _ _
  | some tag =>
      rw [ParserRegistry.outcome_parsePeripheral_of_tag (raw.typeTag?_eq.trans written)]
      obtain ⟨entries, shape⟩ := RawConfig.exists_mapping_of_tag written
      simp only [RawConfig.peripheralChecks, RawConfig.tagFault?, RawConfig.typeFault?,
        RawConfig.known?, RawConfig.writtenKind, written, Option.bind_some]
      rcases peripheral_known tag with ⟨parser, specs, found, listed, rfl, checks⟩ |
        ⟨unknown, unlisted⟩
      · rw [found, listed]
        exact .cons_none (.cons_none (checks name raw entries shape))
      · rw [unknown, unlisted]
        exact .cons_none (.of_error _ _)

theorem decides_parseDevice {lookup : Option PeripheralRegistry} :
    Decides ((raw.deviceChecks lookup).map (Option.map (EntityError.mk name raw.writtenKind)))
      (Builtin.parsers.parseDevice name raw lookup).outcome := by
  cases written : raw.writtenTag? with
  | none =>
      rw [ParserRegistry.outcome_parseDevice_of_untyped (raw.typeTag?_eq.trans written)]
      simp only [RawConfig.deviceChecks, RawConfig.tagFault?, RawConfig.writtenKind, written]
      exact .of_error _ _
  | some tag =>
      rw [ParserRegistry.outcome_parseDevice_of_tag (raw.typeTag?_eq.trans written)]
      obtain ⟨entries, shape⟩ := RawConfig.exists_mapping_of_tag written
      simp only [RawConfig.deviceChecks, RawConfig.tagFault?, RawConfig.typeFault?,
        RawConfig.known?, RawConfig.writtenKind, written, Option.bind_some]
      rcases device_known tag with ⟨parser, demands, found, listed, rfl, checks⟩ |
        ⟨unknown, unlisted⟩
      · rw [found, listed]
        exact .cons_none (.cons_none (checks name raw lookup entries shape))
      · rw [unknown, unlisted]
        exact .cons_none (.of_error _ _)

end Dispatch

/-- Dispatching with the built-in types fails exactly if one of the ordered checks
refuses. The first that does is the cause of the error, and the error is about the
entity of that name and of the type tag that is written. -/
theorem error_is_first_refusal :
    (∀ name raw error, (Builtin.parsers.parsePeripheral name raw).outcome = .error error ↔
      ∃ passed cause later, raw.peripheralChecks = passed ++ some cause :: later ∧
        (∀ check ∈ passed, check = none) ∧ error = ⟨name, raw.writtenKind, cause⟩) ∧
    ∀ name raw lookup error,
      (Builtin.parsers.parseDevice name raw lookup).outcome = .error error ↔
        ∃ passed cause later, raw.deviceChecks lookup = passed ++ some cause :: later ∧
          (∀ check ∈ passed, check = none) ∧ error = ⟨name, raw.writtenKind, cause⟩ := by
  constructor
  · intro name raw error
    exact decides_parsePeripheral.eq_error_iff error
  · intro name raw lookup error
    exact decides_parseDevice.eq_error_iff error

end BoardCompiler
