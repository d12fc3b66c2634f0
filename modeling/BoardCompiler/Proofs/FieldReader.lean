/-
# BoardCompiler.Proofs.FieldReader — what a reader gives on a configuration

`FieldReader.Yields` says that reading succeeds with a value of a given kind. It
passes through a reader step by step: each read is one check, of the value under its
key or of the default, and what was read before has no say in it
(`yields_integer_bind` and its siblings). So a reader comes down to the checks on its
keys, all on the same configuration, and a type that is given by its reader to those
and to the shape of `config` (`PeripheralParser.ofReader_yields_iff`,
`DeviceParser.ofReader_yields_iff`).
-/
import BoardCompiler.Proofs.TypeParser

namespace BoardCompiler

set_option autoImplicit false

open Yaml (Value)

namespace FieldReader

variable {α β : Type} {fields : Fields} {key : String}

/-- Reading succeeds, with a value that satisfies `post`. -/
def Yields (reader : FieldReader α) (fields : Fields) (post : α → Prop) : Prop :=
  ∃ a, (reader.runOn fields).1 = .ok a ∧ post a

@[simp] theorem yields_pure {a : α} {post : α → Prop} :
    (pure a : FieldReader α).Yields fields post ↔ post a := by
  constructor
  · rintro ⟨b, same, held⟩
    cases same
    exact held
  · intro held
    exact ⟨a, rfl, held⟩

theorem runOn_checked_bind {default : Value} {check : Value → Except FieldError α}
    {next : α → FieldReader β} :
    (checked key default check >>= next).runOn fields =
      match check ((Value.lookup key fields.entries).getD default) with
      | .ok a => (next a).runOn { fields with read := key :: fields.read }
      | .error e => (.error e, { fields with read := key :: fields.read }) := by
  show ExceptT.bindCont next (check _) _ = _
  cases check ((Value.lookup key fields.entries).getD default) <;> rfl

theorem yields_checked_bind {default : Value} {check : Value → Except FieldError α}
    {next : α → FieldReader β} {post : β → Prop} :
    (checked key default check >>= next).Yields fields post ↔
      ∃ a, check ((Value.lookup key fields.entries).getD default) = .ok a ∧
        (next a).Yields { fields with read := key :: fields.read } post := by
  rw [Yields, runOn_checked_bind]
  cases check ((Value.lookup key fields.entries).getD default) with
  | error e => simp
  | ok a => simp [Yields]

theorem yields_integer_bind {default : Int} {rule : IntegerRule} {next : Int → FieldReader β}
    {post : β → Prop} :
    (integer key default rule >>= next).Yields fields post ↔
      ∃ n, Field.integer key ((Value.lookup key fields.entries).getD (.integer default)) rule =
          .ok n ∧
        (next n).Yields { fields with read := key :: fields.read } post :=
  yields_checked_bind

theorem yields_flag_bind {default : Int} {next : Int → FieldReader β} {post : β → Prop} :
    (flag key default >>= next).Yields fields post ↔
      ∃ n, Field.integer key ((Value.lookup key fields.entries).getD (.integer default)) .flag =
          .ok n ∧
        (next n).Yields { fields with read := key :: fields.read } post :=
  yields_integer_bind

theorem yields_boolean_bind {default : Bool} {next : Bool → FieldReader β} {post : β → Prop} :
    (boolean key default >>= next).Yields fields post ↔
      ∃ b, Field.boolean key ((Value.lookup key fields.entries).getD (.bool default)) = .ok b ∧
        (next b).Yields { fields with read := key :: fields.read } post :=
  yields_checked_bind

theorem yields_choice_bind {default : String} {choices : List String}
    {next : String → FieldReader β} {post : β → Prop} :
    (choice key default choices >>= next).Yields fields post ↔
      ∃ s, Field.choice key ((Value.lookup key fields.entries).getD (.string default)) choices =
          .ok s ∧
        (next s).Yields { fields with read := key :: fields.read } post :=
  yields_checked_bind

end FieldReader

/-! ## Types given by their reader -/

section OfReader

variable {α : Type} {kind family name : String} {includes : List String}
  {reader : FieldReader α} {raw : RawConfig} {result : StructDescriptor}

/-- Where `config` has the right shape, only the reader decides. -/
theorem outcome_readConfig_of_fields {fields : Fields} (shape : raw.fields = .ok fields) :
    (readConfig name kind raw reader).outcome =
      (reader.runOn fields).1.mapError ErrorCause.field := by
  rw [readConfig, shape]
  cases read : (reader.runOn fields).1 <;>
    simp [Logged.outcome_bind, Except.bind, Except.mapError, read]

theorem readConfig_ok_iff {settings : α} :
    (readConfig name kind raw reader).outcome = .ok settings ↔
      raw.Configurable ∧ (reader.runOn (.ofEntries raw.settings)).1 = .ok settings := by
  constructor
  · intro accepted
    cases shape : raw.fields with
    | error cause => simp [readConfig, shape, Logged.outcome_bind, Except.bind] at accepted
    | ok fields =>
        obtain ⟨configurable, rfl⟩ := RawConfig.fields_eq_ok_iff.mp shape
        rw [outcome_readConfig_of_fields shape] at accepted
        refine ⟨configurable, ?_⟩
        cases read : (reader.runOn (.ofEntries raw.settings)).1 with
        | error e => simp [read, Except.mapError] at accepted
        | ok a => simpa [read, Except.mapError] using accepted
  · rintro ⟨configurable, read⟩
    have shape : raw.fields = .ok (.ofEntries raw.settings) :=
      RawConfig.fields_eq_ok_iff.mpr ⟨configurable, rfl⟩
    rw [outcome_readConfig_of_fields shape, read]
    rfl

theorem PeripheralParser.ofReader_yields_iff {descriptor : α → StructDescriptor} :
    ((ofReader kind includes reader descriptor).parse name raw).outcome = .ok result ↔
      raw.Configurable ∧
        reader.Yields (.ofEntries raw.settings) fun settings => descriptor settings = result := by
  simp only [ofReader_ok_iff, readConfig_ok_iff]
  constructor
  · rintro ⟨settings, ⟨configurable, read⟩, made⟩
    exact ⟨configurable, settings, read, made⟩
  · rintro ⟨configurable, settings, read, made⟩
    exact ⟨settings, ⟨configurable, read⟩, made⟩

theorem DeviceParser.ofReader_yields_iff {lookup : Option PeripheralRegistry}
    {descriptor : String → String → α → StructDescriptor} :
    ((ofReader kind family includes reader descriptor).parse name raw lookup).outcome =
        .ok result ↔
      ∃ ref, (resolveFirst raw family lookup).outcome = .ok ref ∧
        raw.Configurable ∧
          reader.Yields (.ofEntries raw.settings) fun settings =>
            descriptor name ref settings = result := by
  simp only [ofReader_ok_iff, readConfig_ok_iff]
  constructor
  · rintro ⟨ref, settings, resolved, ⟨configurable, read⟩, made⟩
    exact ⟨ref, resolved, configurable, settings, read, made⟩
  · rintro ⟨ref, resolved, configurable, settings, read, made⟩
    exact ⟨ref, settings, resolved, ⟨configurable, read⟩, made⟩

end OfReader

end BoardCompiler
