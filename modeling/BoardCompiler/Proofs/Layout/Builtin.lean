/-
# BoardCompiler.Proofs.Layout.Builtin — the layouts of the built-in types

The documentation of the six built-in types as layouts, with every constant written
out, and the theorem that they say exactly what the types do: a type accepts an entity
if its layout describes a descriptor for the configuration, and gives that one
(`parse_ok_iff_describes`). Reader by reader both sides come down to the same checks
on the same keys in the same order.
-/
import BoardCompiler.Proofs.Builtin
import BoardCompiler.Proofs.FieldReader
import BoardCompiler.Proofs.Layout

namespace BoardCompiler.Layout

set_option autoImplicit false

open Yaml (Value)

/-! ## The documentation -/

/-- A number that stands in the initializer as it is. -/
def number (key : String) (default : Int) (rule : IntegerRule) : MemberSpec :=
  .field (.integer key default rule .integer)

/-- A bit written as 0 or 1. -/
def flag (key : String) (default : Int) : FieldSpec := .integer key default .flag .integer

/-- A boolean that is one of two constants. -/
def switch (key : String) (default : Bool) (on off : String) : MemberSpec :=
  .field (.boolean key default fun b => .text (if b then on else off))

def gpioModes : List (String × String) :=
  [("disable", "GPIO_MODE_DISABLE"), ("input", "GPIO_MODE_INPUT"),
   ("output", "GPIO_MODE_OUTPUT"), ("output_od", "GPIO_MODE_OUTPUT_OD"),
   ("input_output", "GPIO_MODE_INPUT_OUTPUT"),
   ("input_output_od", "GPIO_MODE_INPUT_OUTPUT_OD")]

def gpioInterrupts : List (String × String) :=
  [("disable", "GPIO_INTR_DISABLE"), ("posedge", "GPIO_INTR_POSEDGE"),
   ("negedge", "GPIO_INTR_NEGEDGE"), ("anyedge", "GPIO_INTR_ANYEDGE"),
   ("low_level", "GPIO_INTR_LOW_LEVEL"), ("high_level", "GPIO_INTR_HIGH_LEVEL")]

def sdmClocks : List (String × String) :=
  [("default", "SDM_CLK_SRC_DEFAULT"), ("apb", "SDM_CLK_SRC_APB"), ("xtal", "SDM_CLK_SRC_XTAL")]

def ledcSpeeds : List (String × String) :=
  [("low_speed", "LEDC_LOW_SPEED_MODE"), ("high_speed", "LEDC_HIGH_SPEED_MODE")]

def gpio : Layout where
  structType := "gpio_config_t"
  members :=
    [("pin_bit_mask", .field <| .integer "pin" 0 (.inRange 0 63) fun n =>
        .text ("BIT64(" ++ toString n ++ ")")),
     ("mode", .field <| .choice "mode" "output" gpioModes),
     ("pull_up_en", switch "pull_up" false "GPIO_PULLUP_ENABLE" "GPIO_PULLUP_DISABLE"),
     ("pull_down_en", switch "pull_down" false "GPIO_PULLDOWN_ENABLE" "GPIO_PULLDOWN_DISABLE"),
     ("intr_type", .field <| .choice "intr_type" "disable" gpioInterrupts)]

def ldo : Layout where
  structType := "esp_ldo_channel_config_t"
  members :=
    [("chan_id", number "chan_id" 0 (.atLeast 0)),
     ("voltage_mv", number "voltage_mv" 0 (.atLeast 0)),
     ("flags", .bits
       [("adjustable", flag "adjustable" 1), ("owned_by_hw", flag "owned_by_hw" 0)])]

def sdm : Layout where
  structType := "sdm_config_t"
  members :=
    [("gpio_num", number "gpio_num" 0 (.atLeast 0)),
     ("clk_src", .field <| .choice "clk_src" "default" sdmClocks),
     ("sample_rate_hz", number "sample_rate_hz" 1000000 (.greaterThan 0)),
     ("flags", .bits
       [("invert_out", .boolean "invert_out" false .bool),
        ("io_loop_back", .boolean "io_loop_back" false .bool)])]

def ledc : Layout where
  structType := "ledc_channel_config_t"
  members :=
    [("gpio_num", number "gpio_num" 0 (.inRange 0 63)),
     ("speed_mode", .field <| .choice "speed_mode" "low_speed" ledcSpeeds),
     ("channel", .field <| .integer "channel" 0 (.inRange 0 7) fun n =>
        .text ("LEDC_CHANNEL_" ++ toString n)),
     ("timer_sel", .field <| .integer "timer_sel" 0 (.inRange 0 3) fun n =>
        .text ("LEDC_TIMER_" ++ toString n)),
     ("duty", number "duty" 0 (.atLeast 0)),
     ("hpoint", number "hpoint" 0 (.atLeast 0)),
     ("flags", .bits [("output_invert", flag "output_invert" 0)])]

/-- The layouts of the peripheral types. -/
def peripherals : List (String × Layout) :=
  [("gpio", gpio), ("ldo", ldo), ("sdm", sdm), ("ledc", ledc)]

/-- The members that every device starts with: its name between double quotes, and
its type tag bare. -/
def deviceHeader (name kind : String) : List (String × MemberSpec) :=
  [("name", .fixed (.text ("\"" ++ name ++ "\""))), ("type", .fixed (.text kind))]

def gpioCtrl (name reference : String) : Layout where
  structType := "dev_gpio_ctrl_config_t"
  members := deviceHeader name "gpio_ctrl" ++
    [("gpio_name", .fixed (.text reference)),
     ("active_level", .field (flag "active_level" 0)),
     ("default_level", .field (flag "default_level" 0))]

def ledcCtrl (name reference : String) : Layout where
  structType := "dev_ledc_ctrl_config_t"
  members := deviceHeader name "ledc_ctrl" ++
    [("ledc_name", .fixed (.text reference)),
     ("default_percent", number "default_percent" 100 (.inRange 0 100))]

/-- The layouts of the device types, for a device's name and that of its peripheral. -/
def devices : List (String × (String → String → Layout)) :=
  [("gpio_ctrl", gpioCtrl), ("ledc_ctrl", ledcCtrl)]

/-! ## Constants are made of their words -/

theorem toUpper_eq_ofList (s : String) :
    s.toUpper = String.ofList (s.toList.map Char.toUpper) := by
  rw [← String.toList_inj, String.toUpper, String.toList_map, String.toList_ofList]

theorem gpioModes_eq :
    gpioModes = Gpio.modes.map fun word => (word, "GPIO_MODE_" ++ word.toUpper) := by
  simp only [toUpper_eq_ofList]
  decide

theorem gpioInterrupts_eq :
    gpioInterrupts = Gpio.interruptTypes.map fun word => (word, "GPIO_INTR_" ++ word.toUpper) := by
  simp only [toUpper_eq_ofList]
  decide

theorem sdmClocks_eq :
    sdmClocks = Sdm.clockSources.map fun word => (word, "SDM_CLK_SRC_" ++ word.toUpper) := by
  simp only [toUpper_eq_ofList]
  decide

theorem ledcSpeeds_eq :
    ledcSpeeds = Ledc.speedModes.map fun word => (word, "LEDC_" ++ word.toUpper ++ "_MODE") := by
  simp only [toUpper_eq_ofList]
  decide

/-! ## Reader by reader -/

section Readers

variable {config : List (Value × Value)} {descriptor : StructDescriptor} {name ref : String}

theorem gpio_yields_iff :
    (Gpio.reader.Yields (.ofEntries config) fun s => Gpio.descriptor s = descriptor) ↔
      gpio.Describes config descriptor := by
  simp only [Layout.describes_iff, gpio, switch, exists_fills_cons_iff, exists_fills_nil_iff,
    MemberSpec.exists_holds_field_iff, FieldSpec.exists_holds_boolean_iff]
  simp (disch := decide) only [FieldSpec.exists_holds_integer_iff,
    FieldSpec.exists_holds_choice_iff gpioModes_eq,
    FieldSpec.exists_holds_choice_iff gpioInterrupts_eq]
  simp only [Gpio.reader, FieldReader.yields_integer_bind, FieldReader.yields_choice_bind,
    FieldReader.yields_boolean_bind, FieldReader.yields_pure]
  rfl

theorem ldo_yields_iff :
    (Ldo.reader.Yields (.ofEntries config) fun s => Ldo.descriptor s = descriptor) ↔
      ldo.Describes config descriptor := by
  simp only [Layout.describes_iff, ldo, number, flag, exists_fills_cons_iff,
    exists_fills_nil_iff, MemberSpec.exists_holds_field_iff, MemberSpec.exists_holds_bits_iff]
  simp (disch := decide) only [FieldSpec.exists_holds_integer_iff]
  simp only [Ldo.reader, FieldReader.yields_integer_bind, FieldReader.yields_flag_bind,
    FieldReader.yields_pure]
  rfl

theorem sdm_yields_iff :
    (Sdm.reader.Yields (.ofEntries config) fun s => Sdm.descriptor s = descriptor) ↔
      sdm.Describes config descriptor := by
  simp only [Layout.describes_iff, sdm, number, exists_fills_cons_iff, exists_fills_nil_iff,
    MemberSpec.exists_holds_field_iff, MemberSpec.exists_holds_bits_iff,
    FieldSpec.exists_holds_boolean_iff]
  simp (disch := decide) only [FieldSpec.exists_holds_integer_iff,
    FieldSpec.exists_holds_choice_iff sdmClocks_eq]
  simp only [Sdm.reader, FieldReader.yields_integer_bind, FieldReader.yields_choice_bind,
    FieldReader.yields_boolean_bind, FieldReader.yields_pure]
  rfl

theorem ledc_yields_iff :
    (Ledc.reader.Yields (.ofEntries config) fun s => Ledc.descriptor s = descriptor) ↔
      ledc.Describes config descriptor := by
  simp only [Layout.describes_iff, ledc, number, flag, exists_fills_cons_iff,
    exists_fills_nil_iff, MemberSpec.exists_holds_field_iff, MemberSpec.exists_holds_bits_iff]
  simp (disch := decide) only [FieldSpec.exists_holds_integer_iff,
    FieldSpec.exists_holds_choice_iff ledcSpeeds_eq]
  simp only [Ledc.reader, FieldReader.yields_integer_bind, FieldReader.yields_choice_bind,
    FieldReader.yields_flag_bind, FieldReader.yields_pure]
  rfl

theorem gpioCtrl_yields_iff :
    (GpioCtrl.reader.Yields (.ofEntries config) fun s =>
        GpioCtrl.descriptor name ref s = descriptor) ↔
      (gpioCtrl name ref).Describes config descriptor := by
  simp only [Layout.describes_iff, gpioCtrl, deviceHeader, flag, List.cons_append,
    List.nil_append, exists_fills_cons_iff, exists_fills_nil_iff,
    MemberSpec.exists_holds_field_iff, MemberSpec.exists_holds_fixed_iff]
  simp (disch := decide) only [FieldSpec.exists_holds_integer_iff]
  simp only [GpioCtrl.reader, FieldReader.yields_flag_bind, FieldReader.yields_pure]
  rfl

theorem ledcCtrl_yields_iff :
    (LedcCtrl.reader.Yields (.ofEntries config) fun s =>
        LedcCtrl.descriptor name ref s = descriptor) ↔
      (ledcCtrl name ref).Describes config descriptor := by
  simp only [Layout.describes_iff, ledcCtrl, deviceHeader, number, List.cons_append,
    List.nil_append, exists_fills_cons_iff, exists_fills_nil_iff,
    MemberSpec.exists_holds_field_iff, MemberSpec.exists_holds_fixed_iff]
  simp (disch := decide) only [FieldSpec.exists_holds_integer_iff]
  simp only [LedcCtrl.reader, FieldReader.yields_integer_bind, FieldReader.yields_pure]
  rfl

end Readers

/-! ## Type by type -/

/-- A built-in type accepts an entity exactly if the entity can be read and the type's
layout describes a descriptor for its settings, and gives that descriptor; a device must
besides refer to a name of its family, which is registered where a registry is given. -/
theorem parse_ok_iff_describes :
    (∀ entry ∈ peripherals,
      ∃ parser, Builtin.parsers.peripherals.get? entry.1 = some parser ∧
        ∀ name raw descriptor, (parser.parse name raw).outcome = .ok descriptor ↔
          raw.Configurable ∧ entry.2.Describes raw.settings descriptor) ∧
    ∀ entry ∈ devices,
      ∃ parser, Builtin.parsers.devices.get? entry.1 = some parser ∧
        ∀ name raw lookup descriptor, (parser.parse name raw lookup).outcome = .ok descriptor ↔
          ∃ ref, (raw.referredName? = some ref ∧ inFamily parser.family ref = true ∧
              ∀ r ∈ lookup, r.contains ref = true) ∧
            raw.Configurable ∧ (entry.2 name ref).Describes raw.settings descriptor := by
  simp only [peripherals, devices, List.forall_mem_cons, List.not_mem_nil, false_imp_iff,
    implies_true, and_true, ← resolveFirst_ok_iff]
  refine ⟨⟨⟨Gpio.parser, rfl, ?_⟩, ⟨Ldo.parser, rfl, ?_⟩, ⟨Sdm.parser, rfl, ?_⟩,
    ⟨Ledc.parser, rfl, ?_⟩⟩, ⟨GpioCtrl.parser, rfl, ?_⟩, ⟨LedcCtrl.parser, rfl, ?_⟩⟩
  · intro name raw descriptor
    simp only [← gpio_yields_iff]
    exact PeripheralParser.ofReader_yields_iff
  · intro name raw descriptor
    simp only [← ldo_yields_iff]
    exact PeripheralParser.ofReader_yields_iff
  · intro name raw descriptor
    simp only [← sdm_yields_iff]
    exact PeripheralParser.ofReader_yields_iff
  · intro name raw descriptor
    simp only [← ledc_yields_iff]
    exact PeripheralParser.ofReader_yields_iff
  · intro name raw lookup descriptor
    simp only [← gpioCtrl_yields_iff]
    exact DeviceParser.ofReader_yields_iff
  · intro name raw lookup descriptor
    simp only [← ledcCtrl_yields_iff]
    exact DeviceParser.ofReader_yields_iff

end BoardCompiler.Layout
