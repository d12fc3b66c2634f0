/-
# BoardCompiler.Proofs.RawConfig — what stands in an entity

An entity is a value, and what it says is read off an untagged mapping: what stands
under a key (`entry?`), the type tag (`writtenTag?`) and the entries of `config`
(`settings`); any other value says nothing. The reading of an entity gives just these
(`typeTag?_eq`, `get_eq_ok_iff`). It refuses what is neither null nor an untagged
mapping, the entity as well as its `config`, and reads the settings of every other
entity (`fields_eq_ok_iff`).
-/
import BoardCompiler.RawConfig

namespace BoardCompiler

set_option autoImplicit false

open Yaml (Value)

/-- The value is read as a mapping: it is one, without a tag, or null. -/
def Yaml.Value.NullOrMapping (v : Value) : Prop := v = .null ∨ ∃ entries, v = .mapping entries

namespace RawConfig

/-- What stands under a key, where the entity is an untagged mapping. -/
def entry? (raw : RawConfig) (key : String) : Option Value :=
  match raw.value with
  | .mapping entries => Value.lookup key entries
  | _ => none

/-- The string under `type`. -/
def writtenTag? (raw : RawConfig) : Option String := (raw.entry? "type").bind Value.asString?

/-- The string under `type`, or the word for its absence. -/
def writtenKind (raw : RawConfig) : String := raw.writtenTag?.getD untypedKind

/-- The entries of `config`, where that is an untagged mapping. -/
def settings (raw : RawConfig) : List (Value × Value) :=
  match raw.entry? "config" with
  | some (.mapping entries) => entries
  | _ => []

/-- The entity is read as a mapping, and so is its `config` if it has one. -/
structure Configurable (raw : RawConfig) : Prop where
  value : raw.value.NullOrMapping
  config : ∀ config ∈ raw.entry? "config", config.NullOrMapping

variable {raw : RawConfig} {key tag : String} {found : Option Value} {cause : ErrorCause}
  {entries : List (Value × Value)}

/-! ## Keys -/

theorem get_eq_ok_iff :
    raw.get key = .ok found ↔ raw.value.NullOrMapping ∧ raw.entry? key = found := by
  obtain ⟨value⟩ := raw
  unfold get RawConfig.entries entry?
  cases value <;> simp [Value.NullOrMapping, Except.map, Value.lookup]

theorem get_of_mapping (shape : raw.value = .mapping entries) (key : String) :
    raw.get key = .ok (raw.entry? key) :=
  get_eq_ok_iff.mpr ⟨.inr ⟨entries, shape⟩, rfl⟩

theorem entry?_of_get_error (refused : raw.get key = .error cause) : raw.entry? key = none := by
  obtain ⟨value⟩ := raw
  unfold get RawConfig.entries at refused
  cases value with
  | mapping entries => cases refused
  | _ => rfl

theorem text?_eq (raw : RawConfig) (key : String) :
    raw.text? key = (raw.entry? key).bind Value.asString? := by
  unfold text?
  cases got : raw.get key with
  | error cause =>
      rw [entry?_of_get_error got]
      rfl
  | ok found =>
      rw [(get_eq_ok_iff.mp got).2]
      cases found <;> rfl

/-! ## The type tag -/

theorem typeTag?_eq (raw : RawConfig) : raw.typeTag? = raw.writtenTag? :=
  raw.text?_eq "type"

theorem kind_eq (raw : RawConfig) : raw.kind = raw.writtenKind := by
  rw [kind, typeTag?_eq, writtenKind]

/-- Only an untagged mapping has a type tag. -/
theorem exists_mapping_of_tag (tagged : raw.writtenTag? = some tag) :
    ∃ entries, raw.value = .mapping entries := by
  obtain ⟨value⟩ := raw
  cases value with
  | mapping entries => exact ⟨entries, rfl⟩
  | _ => cases tagged

/-! ## The settings -/

/-- The fields of an entity are those of its settings, none read yet. -/
theorem fields_eq_ok_iff {fields : Fields} :
    raw.fields = .ok fields ↔ raw.Configurable ∧ fields = .ofEntries raw.settings := by
  unfold RawConfig.fields settings
  cases got : raw.get "config" with
  | error cause =>
      refine iff_of_false nofun fun ⟨readable, _⟩ => ?_
      cases got.symm.trans (get_eq_ok_iff.mpr ⟨readable.value, rfl⟩)
  | ok found =>
      obtain ⟨shape, rfl⟩ := get_eq_ok_iff.mp got
      have configurable : raw.Configurable ↔
          ∀ config ∈ raw.entry? "config", config.NullOrMapping :=
        ⟨Configurable.config, .mk shape⟩
      rw [configurable]
      rcases raw.entry? "config" with _ | config
      · simp [Fields.empty, eq_comm]
      · cases config <;> simp [Value.NullOrMapping, Fields.empty, eq_comm]

end RawConfig

end BoardCompiler
