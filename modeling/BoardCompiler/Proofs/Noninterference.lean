/-
# BoardCompiler.Proofs.Noninterference — what a type looks at

A type looks at its configuration under the keys of its fields and nowhere else
(`FieldReader.LooksAt`, which passes through a reader step by step), and a device type
besides at the name in the first entry of `peripherals` and at whether that name is
registered (`outcome_resolveFirst_of_referred`). So entities of one type that agree in these
are parsed alike, into equal descriptors or with equal errors, whatever else stands in
the entities and in the registries (`parse_eq_of_alike`).
-/
import BoardCompiler.Proofs.EntityChecks

namespace BoardCompiler

set_option autoImplicit false

open Yaml (Value)

/-! ## Readers -/

/-- Configurations with the same value under each of the keys, or both without one. -/
def AgreeOn (keys : List String) (a b : List (Value × Value)) : Prop :=
  ∀ key ∈ keys, Value.lookup key a = Value.lookup key b

namespace FieldReader

variable {α β : Type} {keys : List String} {key : String}

/-- What the reader gives depends on what stands under these keys only. -/
def LooksAt (reader : FieldReader α) (keys : List String) : Prop :=
  ∀ f g : Fields, AgreeOn keys f.entries g.entries → (reader.runOn f).1 = (reader.runOn g).1

theorem looksAt_pure (a : α) : (pure a : FieldReader α).LooksAt [] := fun _ _ _ => rfl

theorem looksAt_checked_bind {default : Value} {check : Value → Except FieldError α}
    {next : α → FieldReader β} (rest : ∀ a, (next a).LooksAt keys) :
    (checked key default check >>= next).LooksAt (key :: keys) := by
  intro f g agree
  have same : Value.lookup key f.entries = Value.lookup key g.entries :=
    agree key List.mem_cons_self
  rw [runOn_checked_bind, runOn_checked_bind, same]
  cases check ((Value.lookup key g.entries).getD default) with
  | error e => rfl
  | ok a => exact rest a _ _ fun other member => agree other (List.mem_cons_of_mem key member)

theorem looksAt_integer_bind {default : Int} {rule : IntegerRule} {next : Int → FieldReader β}
    (rest : ∀ n, (next n).LooksAt keys) :
    (integer key default rule >>= next).LooksAt (key :: keys) :=
  looksAt_checked_bind rest

theorem looksAt_flag_bind {default : Int} {next : Int → FieldReader β}
    (rest : ∀ n, (next n).LooksAt keys) : (flag key default >>= next).LooksAt (key :: keys) :=
  looksAt_integer_bind rest

theorem looksAt_boolean_bind {default : Bool} {next : Bool → FieldReader β}
    (rest : ∀ b, (next b).LooksAt keys) : (boolean key default >>= next).LooksAt (key :: keys) :=
  looksAt_checked_bind rest

theorem looksAt_choice_bind {default : String} {choices : List String}
    {next : String → FieldReader β} (rest : ∀ s, (next s).LooksAt keys) :
    (choice key default choices >>= next).LooksAt (key :: keys) :=
  looksAt_checked_bind rest

theorem gpio_looksAt : Gpio.reader.LooksAt (Layout.gpio.fields.map FieldSpec.key) :=
  looksAt_integer_bind fun _ => looksAt_choice_bind fun _ => looksAt_boolean_bind fun _ =>
    looksAt_boolean_bind fun _ => looksAt_choice_bind fun _ => looksAt_pure _

theorem ldo_looksAt : Ldo.reader.LooksAt (Layout.ldo.fields.map FieldSpec.key) :=
  looksAt_integer_bind fun _ => looksAt_integer_bind fun _ => looksAt_flag_bind fun _ =>
    looksAt_flag_bind fun _ => looksAt_pure _

theorem sdm_looksAt : Sdm.reader.LooksAt (Layout.sdm.fields.map FieldSpec.key) :=
  looksAt_integer_bind fun _ => looksAt_choice_bind fun _ => looksAt_integer_bind fun _ =>
    looksAt_boolean_bind fun _ => looksAt_boolean_bind fun _ => looksAt_pure _

theorem ledc_looksAt : Ledc.reader.LooksAt (Layout.ledc.fields.map FieldSpec.key) :=
  looksAt_integer_bind fun _ => looksAt_choice_bind fun _ => looksAt_integer_bind fun _ =>
    looksAt_integer_bind fun _ => looksAt_integer_bind fun _ => looksAt_integer_bind fun _ =>
      looksAt_flag_bind fun _ => looksAt_pure _

theorem gpioCtrl_looksAt : GpioCtrl.reader.LooksAt ["active_level", "default_level"] :=
  looksAt_flag_bind fun _ => looksAt_flag_bind fun _ => looksAt_pure _

theorem ledcCtrl_looksAt : LedcCtrl.reader.LooksAt ["default_percent"] :=
  looksAt_integer_bind fun _ => looksAt_pure _

end FieldReader

/-! ## Entities -/

/-- Entities of the type `tag` that agree under the keys of these fields, each with a
`config` that is absent, null or a mapping. -/
structure RawConfig.Alike (tag : String) (fields : List FieldSpec) (a b : RawConfig) : Prop where
  tag_left : a.typeTag? = some tag
  tag_right : b.typeTag? = some tag
  shape_left : a.configFault? = none
  shape_right : b.configFault? = none
  settings : AgreeOn (fields.map FieldSpec.key) a.settings b.settings

/-- A `config` of the right shape is read from its entries. -/
theorem fields_of_shape {raw : RawConfig} {tag : String} (tagged : raw.typeTag? = some tag)
    (shape : raw.configFault? = none) :
    ∃ fields, raw.fields = .ok fields ∧ fields.entries = raw.settings := by
  obtain ⟨entries, mapping⟩ := RawConfig.exists_mapping_of_tag (raw.typeTag?_eq ▸ tagged)
  have decides := decides_fields mapping
  rw [shape] at decides
  obtain ⟨fields, read⟩ := decides
  obtain ⟨-, rfl⟩ := RawConfig.fields_eq_ok_iff.mp read
  exact ⟨_, read, rfl⟩

section Steps

variable {α : Type} {kind family name tag ref : String} {includes : List String}
  {reader : FieldReader α} {specs : List FieldSpec} {a b : RawConfig}

theorem outcome_readConfig_eq (looks : reader.LooksAt (specs.map FieldSpec.key))
    (alike : RawConfig.Alike tag specs a b) (name kind : String) :
    (readConfig name kind a reader).outcome = (readConfig name kind b reader).outcome := by
  obtain ⟨f, readLeft, left⟩ := fields_of_shape alike.tag_left alike.shape_left
  obtain ⟨g, readRight, right⟩ := fields_of_shape alike.tag_right alike.shape_right
  rw [outcome_readConfig_of_fields readLeft, outcome_readConfig_of_fields readRight,
    looks f g (left ▸ right ▸ alike.settings)]

/-- A reference is resolved by its name and by whether the name is registered. -/
theorem outcome_resolveFirst_of_referred (referred : a.referredName? = some ref)
    (lookup : Option PeripheralRegistry) :
    (resolveFirst a family lookup).outcome =
      if !inFamily family ref then .error (.wrongFamily ref family)
      else if (lookup.map fun r => r.contains ref).getD true then .ok ref
      else .error (.undefinedReference ref) := by
  rw [outcome_resolveFirst]
  rw [RawConfig.referredName?_eq] at referred
  rcases found : a.firstPeripheral with cause | ⟨_ | found, count⟩ <;> rw [found] at referred
  · cases referred
  · cases referred
  · cases referred
    rfl

theorem PeripheralParser.ofReader_parse_eq (looks : reader.LooksAt (specs.map FieldSpec.key))
    (descriptor : α → StructDescriptor) (alike : RawConfig.Alike tag specs a b) (name : String) :
    ((ofReader kind includes reader descriptor).parse name a).outcome =
      ((ofReader kind includes reader descriptor).parse name b).outcome := by
  simp only [ofReader, aboutEntity, Logged.outcome_mapError, Logged.outcome_map,
    outcome_readConfig_eq looks alike]

theorem DeviceParser.ofReader_parse_eq {lookup lookup' : Option PeripheralRegistry}
    (looks : reader.LooksAt (specs.map FieldSpec.key))
    (descriptor : String → String → α → StructDescriptor) (alike : RawConfig.Alike tag specs a b)
    (left : a.referredName? = some ref) (right : b.referredName? = some ref)
    (known : (lookup.map fun r => r.contains ref) = lookup'.map fun r => r.contains ref)
    (name : String) :
    ((ofReader kind family includes reader descriptor).parse name a lookup).outcome =
      ((ofReader kind family includes reader descriptor).parse name b lookup').outcome := by
  simp only [ofReader, aboutEntity, Logged.outcome_mapError, Logged.outcome_bind,
    Logged.outcome_map, outcome_resolveFirst_of_referred left, outcome_resolveFirst_of_referred right,
    known, outcome_readConfig_eq looks alike]

end Steps

/-- What a type says of an entity depends on the configuration under the keys of the
type's fields and, for a device, on the name that it refers to and on whether that name
is registered. -/
theorem parse_eq_of_alike :
    (∀ entry ∈ peripheralDemands, ∀ name a b, RawConfig.Alike entry.1 entry.2 a b →
      (Builtin.parsers.parsePeripheral name a).outcome =
        (Builtin.parsers.parsePeripheral name b).outcome) ∧
    ∀ entry ∈ deviceDemands, ∀ name a b ref lookup lookup',
      RawConfig.Alike entry.1 entry.2.fields a b →
      a.referredName? = some ref → b.referredName? = some ref →
      ((lookup.map fun r => r.contains ref) = lookup'.map fun r => r.contains ref) →
        (Builtin.parsers.parseDevice name a lookup).outcome =
          (Builtin.parsers.parseDevice name b lookup').outcome := by
  constructor
  · intro entry member name a b alike
    rw [ParserRegistry.outcome_parsePeripheral_of_tag alike.tag_left,
      ParserRegistry.outcome_parsePeripheral_of_tag alike.tag_right]
    simp only [peripheralDemands, Layout.peripherals, List.map_cons, List.map_nil, List.mem_cons,
      List.not_mem_nil, or_false] at member
    rcases member with rfl | rfl | rfl | rfl
    · exact PeripheralParser.ofReader_parse_eq FieldReader.gpio_looksAt _ alike name
    · exact PeripheralParser.ofReader_parse_eq FieldReader.ldo_looksAt _ alike name
    · exact PeripheralParser.ofReader_parse_eq FieldReader.sdm_looksAt _ alike name
    · exact PeripheralParser.ofReader_parse_eq FieldReader.ledc_looksAt _ alike name
  · intro entry member name a b ref lookup lookup' alike left right known
    rw [ParserRegistry.outcome_parseDevice_of_tag alike.tag_left,
      ParserRegistry.outcome_parseDevice_of_tag alike.tag_right]
    simp only [deviceDemands, List.mem_cons, List.not_mem_nil, or_false] at member
    rcases member with rfl | rfl
    · exact DeviceParser.ofReader_parse_eq FieldReader.gpioCtrl_looksAt _ alike left right known
        name
    · exact DeviceParser.ofReader_parse_eq FieldReader.ledcCtrl_looksAt _ alike left right known
        name

/-! ## Entities that differ in everything else -/

/-- A regulator that leaves all to the defaults. -/
def regulator : RawConfig := ⟨.mapping [(.string "type", .string "ldo")]⟩

/-- The regulator with a remark in its `config`. -/
def talkativeRegulator : RawConfig :=
  ⟨.mapping
    [(.string "config", .mapping [(.string "note", .string "spare")]),
     (.string "type", .string "ldo")]⟩

theorem regulator_alike :
    RawConfig.Alike "ldo" Layout.ldo.fields regulator talkativeRegulator where
  tag_left := rfl
  tag_right := rfl
  shape_left := rfl
  shape_right := rfl
  settings := by
    intro key member
    have keys : Layout.ldo.fields.map FieldSpec.key =
        ["chan_id", "voltage_mv", "adjustable", "owned_by_hw"] := rfl
    simp only [keys, List.mem_cons, List.not_mem_nil, or_false] at member
    rcases member with rfl | rfl | rfl | rfl <;> rfl

/-- A button at a level that is refused. -/
def button : RawConfig :=
  ⟨.mapping
    [(.string "type", .string "gpio_ctrl"),
     (.string "peripherals", .sequence [.string "gpio-0"]),
     (.string "config", .mapping [(.string "active_level", .integer 2)])]⟩

/-- The button with more to say, in another order. -/
def talkativeButton : RawConfig :=
  ⟨.mapping
    [(.integer 5, .null),
     (.string "config",
       .mapping [(.string "colour", .string "red"), (.string "active_level", .integer 2)]),
     (.string "peripherals",
       .sequence [.mapping [(.string "name", .string "gpio-0")], .integer 7]),
     (.string "type", .string "gpio_ctrl")]⟩

theorem button_alike :
    RawConfig.Alike "gpio_ctrl" [Layout.flag "active_level" 0, Layout.flag "default_level" 0]
      button talkativeButton where
  tag_left := rfl
  tag_right := rfl
  shape_left := rfl
  shape_right := rfl
  settings := by
    intro key member
    simp only [List.map_cons, List.map_nil, List.mem_cons, List.not_mem_nil, or_false] at member
    rcases member with rfl | rfl <;> rfl

def gpioDescriptor : StructDescriptor := .of "gpio_config_t" .empty

theorem talkative_parse_alike :
    (Builtin.parsers.parsePeripheral "ldo0" regulator).outcome =
        (Builtin.parsers.parsePeripheral "ldo0" talkativeRegulator).outcome ∧
      (Builtin.parsers.parseDevice "button" button
          (some (PeripheralRegistry.empty.add "gpio-0" ⟨"gpio", gpioDescriptor⟩))).outcome =
        (Builtin.parsers.parseDevice "button" talkativeButton
          (some ((PeripheralRegistry.empty.add "ldo1" ⟨"ldo", gpioDescriptor⟩).add "gpio-0"
            ⟨"gpio", gpioDescriptor⟩))).outcome :=
  ⟨parse_eq_of_alike.1 ("ldo", Layout.ldo.fields) (by simp [peripheralDemands, Layout.peripherals])
      "ldo0" regulator talkativeRegulator regulator_alike,
    parse_eq_of_alike.2 _ List.mem_cons_self "button" button talkativeButton "gpio-0" _ _
      button_alike rfl rfl rfl⟩

end BoardCompiler
