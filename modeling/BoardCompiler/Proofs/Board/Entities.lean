/-
# BoardCompiler.Proofs.Board.Entities — what becomes of an entry

An entry of a board document is an entity exactly if it is an untagged mapping with a string
under `name` (`ofValue_eq_ok_iff`). Every other entry is refused (`ofValue_eq_error_iff`):
as no mapping if it is none under its tags, and else as one without a name. A raw
configuration does not look under tags, so a tagged mapping is no mapping to it and still
refused for its name. The two agree on all other entries (`entries_judged`).
-/
import BoardCompiler.Board
import BoardCompiler.Proofs.RawConfig

namespace BoardCompiler

set_option autoImplicit false

open Yaml (Value)

theorem RawConfig.text?_eq_some_iff {raw : RawConfig} {key text : String} :
    raw.text? key = some text ↔ ∃ entries v, raw.value = .mapping entries ∧
      Value.lookup key entries = some v ∧ v.asString? = some text := by
  obtain ⟨value⟩ := raw
  rw [text?_eq]
  unfold entry?
  cases value <;> simp [Option.bind_eq_some_iff]

namespace Entity

/-- An entity is written as an untagged mapping, with a string under `name`. -/
structure WrittenAs (e : Entity) (item : Value) : Prop where
  raw : e.raw.value = item
  named : ∃ entries name, item = .mapping entries ∧ Value.lookup "name" entries = some name ∧
    name.asString? = some e.name

/-- What an entry is refused with that no entity is written as. -/
def refusal (item : Value) : EntityError :=
  ⟨unnamed, RawConfig.kind ⟨item⟩,
    .malformed (if item.isMapping then "missing 'name'" else "entry must be a mapping")⟩

theorem ofValue_eq_ok_iff {item : Value} {e : Entity} :
    ofValue item = .ok e ↔ e.WrittenAs item := by
  have named := @RawConfig.text?_eq_some_iff ⟨item⟩ "name"
  unfold ofValue
  constructor
  · intro read
    split at read
    · cases read
    dsimp only at read
    split at read
    next name found =>
      cases read
      exact ⟨rfl, named.mp found⟩
    · cases read
  · rintro ⟨rfl, entries, v, shape, found, text⟩
    obtain ⟨name, raw⟩ := e
    have isMapping : raw.value.isMapping = true := by
      rw [shape]
      rfl
    have read : RawConfig.name? raw = some name := named.mpr ⟨entries, v, shape, found, text⟩
    simp [isMapping, read]

/-- An entry that no entity is written as is refused. -/
theorem ofValue_eq_error_iff {item : Value} {error : EntityError} :
    ofValue item = .error error ↔ (∀ e : Entity, ¬ e.WrittenAs item) ∧ error = refusal item := by
  simp only [← ofValue_eq_ok_iff]
  unfold ofValue refusal
  cases item.isMapping with
  | false => simp [eq_comm]
  | true => cases found : RawConfig.name? ⟨item⟩ <;> simp [found, eq_comm]

end Entity

/-! ## Mappings -/

theorem Yaml.Value.isMapping_iff {v : Value} :
    v.isMapping = true ↔ ∃ entries, v.untagged = .mapping entries := by
  unfold isMapping
  cases v.untagged <;> simp

/-- The value is read as a mapping: it is not null, which is read as nothing, and its entries
are given. -/
def RawConfig.ReadsMapping (raw : RawConfig) : Prop :=
  raw.value ≠ .null ∧ ∃ entries, raw.entries = .ok entries

theorem RawConfig.readsMapping_iff {raw : RawConfig} :
    raw.ReadsMapping ↔ ∃ entries, raw.value = .mapping entries := by
  obtain ⟨value⟩ := raw
  cases value <;> simp [ReadsMapping, entries]

namespace Entity

/-- The entry is refused with that detail. -/
def RefusedAs (item : Value) (detail : String) : Prop :=
  ofValue item = .error ⟨unnamed, RawConfig.kind ⟨item⟩, .malformed detail⟩

/-- No string stands under the `name` of a mapping. -/
def Nameless (item : Value) : Prop :=
  ∀ entries, item = .mapping entries → ∀ v, Value.lookup "name" entries = some v →
    v.asString? = none

/-- The loader refuses as no mapping what the raw configuration reads as none, and for its
name only a mapping to both that has none. -/
structure JudgedAlike (item : Value) : Prop where
  notMapping : ¬ RawConfig.ReadsMapping ⟨item⟩ → RefusedAs item "entry must be a mapping"
  missingName : RefusedAs item "missing 'name'" → RawConfig.ReadsMapping ⟨item⟩ ∧ Nameless item

/-- A mapping that only a look under its tags finds. -/
def TaggedMapping (item : Value) : Prop := ∃ tag v, item = .tagged tag v ∧ v.isMapping = true

theorem isMapping_cases {item : Value} :
    item.isMapping = true ↔ RawConfig.ReadsMapping ⟨item⟩ ∨ TaggedMapping item := by
  rw [RawConfig.readsMapping_iff]
  cases item <;> simp [TaggedMapping, Value.isMapping, Value.untagged, and_assoc]

theorem name?_eq_none_iff {item : Value} : RawConfig.name? ⟨item⟩ = none ↔ Nameless item := by
  have named := @RawConfig.text?_eq_some_iff ⟨item⟩ "name"
  rw [Option.eq_none_iff_forall_ne_some]
  constructor
  · intro none entries shape v found
    cases text : v.asString? with
    | none => rfl
    | some name => exact absurd (named.mpr ⟨entries, v, shape, found, text⟩) (none name)
  · intro nameless name read
    obtain ⟨entries, v, shape, found, text⟩ := named.mp read
    rw [nameless entries shape v found] at text
    cases text

theorem refusedAs_notMapping_iff {item : Value} :
    RefusedAs item "entry must be a mapping" ↔ item.isMapping = false := by
  unfold RefusedAs ofValue
  cases item.isMapping with
  | false => simp
  | true => cases found : RawConfig.name? ⟨item⟩ <;> simp [found]

theorem refusedAs_missingName_iff {item : Value} :
    RefusedAs item "missing 'name'" ↔ item.isMapping = true ∧ Nameless item := by
  rw [← name?_eq_none_iff]
  unfold RefusedAs ofValue
  cases item.isMapping with
  | false => simp
  | true => cases found : RawConfig.name? ⟨item⟩ <;> simp [found]

theorem judgedAlike_iff {item : Value} : JudgedAlike item ↔ ¬ TaggedMapping item := by
  constructor
  · intro alike tagged
    have nameless : Nameless item := by
      obtain ⟨tag, v, rfl, -⟩ := tagged
      exact fun entries shape => nomatch shape
    have refused := refusedAs_missingName_iff.mpr ⟨isMapping_cases.mpr (.inr tagged), nameless⟩
    obtain ⟨entries, shape⟩ := RawConfig.readsMapping_iff.mp (alike.missingName refused).1
    obtain ⟨tag, v, rfl, -⟩ := tagged
    cases shape
  · intro plain
    constructor
    · intro unread
      rw [refusedAs_notMapping_iff, ← Bool.not_eq_true, isMapping_cases]
      exact fun either => either.elim unread plain
    · intro refused
      obtain ⟨mapping, nameless⟩ := refusedAs_missingName_iff.mp refused
      exact ⟨(isMapping_cases.mp mapping).resolve_right plain, nameless⟩

/-- An entry is an entity, is refused as no mapping if it is none under its tags, or is
refused for its name if it is one: because no string stands under the name, or because it is
tagged. Loader and raw configuration agree on it exactly if it is no tagged mapping. -/
theorem entries_judged (item : Value) :
    (∀ e : Entity, ofValue item = .ok e ↔ e.WrittenAs item) ∧
    (RefusedAs item "entry must be a mapping" ↔ ∀ entries, item.untagged ≠ .mapping entries) ∧
    (RefusedAs item "missing 'name'" ↔
      (∃ entries, item.untagged = .mapping entries) ∧ Nameless item) ∧
    (JudgedAlike item ↔ ¬ TaggedMapping item) := by
  refine ⟨fun _ => ofValue_eq_ok_iff, ?_, ?_, judgedAlike_iff⟩
  · rw [refusedAs_notMapping_iff, ← Bool.not_eq_true, Value.isMapping_iff, not_exists]
  · rw [refusedAs_missingName_iff, Value.isMapping_iff]

/-- A peripheral that has a name and a tag is refused for having no name. -/
theorem taggedEntry_misjudged : ¬ ∀ item, JudgedAlike item := by
  intro always
  have refused : RefusedAs (.tagged ⟨"x"⟩
      (.mapping [(.string "name", .string "a"), (.string "type", .string "gpio")]))
      "missing 'name'" := rfl
  obtain ⟨entries, shape⟩ := RawConfig.readsMapping_iff.mp ((always _).missingName refused).1
  cases shape

end Entity

end BoardCompiler
