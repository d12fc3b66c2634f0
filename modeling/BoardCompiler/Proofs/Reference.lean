/-
# BoardCompiler.Proofs.Reference — what a registry adds to a reference

A device refers to the name in the first entry of its `peripherals` (`referredName?`),
which is all that reading its references comes to (`referredName?_eq`). Resolving the
reference without a registry checks its form: there is a first entry, the entry is a
reference, its name belongs to the family. A registry adds one check behind these and
no other effect (`outcome_resolveFirst_some`).
-/
import BoardCompiler.Proofs.RawConfig
import BoardCompiler.Reference
import Mathlib.Data.List.Infix

namespace BoardCompiler

set_option autoImplicit false

open Yaml (Value)

theorem inFamily_iff {family name : String} :
    inFamily family name = true ↔ family.toList <+: name.toList :=
  List.isPrefixOf_iff_prefix

/-! ## The first entry -/

namespace RawConfig

/-- The first entry of `peripherals`, where that is an untagged sequence. -/
def firstEntry? (raw : RawConfig) : Option Value :=
  match raw.entry? "peripherals" with
  | some (.sequence (first :: _)) => some first
  | _ => none

/-- The name that the first entry refers to. -/
def referredName? (raw : RawConfig) : Option String :=
  raw.firstEntry?.bind fun first => (PeripheralRef.ofValue? first).map PeripheralRef.name

variable {raw : RawConfig}

/-- The first entry is the first that is read, where the entries can be read. -/
theorem firstEntry?_eq (raw : RawConfig) :
    raw.firstEntry? = raw.peripherals.toOption.bind List.head? := by
  unfold firstEntry? peripherals
  cases got : raw.get "peripherals" with
  | error cause =>
      rw [entry?_of_get_error got]
      rfl
  | ok found =>
      rw [(get_eq_ok_iff.mp got).2]
      rcases found with _ | value
      · rfl
      · cases value with
        | sequence items => cases items <;> rfl
        | _ => rfl

theorem isSome_firstEntry? {found : Option PeripheralRef} {count : Nat}
    (first : raw.firstPeripheral = .ok (found, count)) :
    raw.firstEntry?.isSome = found.isSome := by
  rw [firstEntry?_eq]
  revert first
  unfold firstPeripheral
  rcases raw.peripherals with cause | ⟨_ | ⟨head, rest⟩⟩
  · rintro ⟨⟩
  · rintro ⟨⟩
    rfl
  · dsimp only
    cases PeripheralRef.ofValue head with
    | error cause => rintro ⟨⟩
    | ok ref =>
        rintro ⟨⟩
        rfl

/-- The name is that of the first reference, where one can be read. -/
theorem referredName?_eq (raw : RawConfig) :
    raw.referredName? =
      raw.firstPeripheral.toOption.bind fun first => first.1.map PeripheralRef.name := by
  rw [referredName?, firstEntry?_eq]
  unfold firstPeripheral
  rcases raw.peripherals with cause | ⟨_ | ⟨head, rest⟩⟩
  · rfl
  · rfl
  · cases form : PeripheralRef.ofValue? head <;>
      simp [form, PeripheralRef.ofValue, Except.map, Except.toOption]

end RawConfig

variable {raw : RawConfig} {family name ref : String}

/-! ## Resolving -/

theorem outcome_resolveFirst (lookup : Option PeripheralRegistry) :
    (resolveFirst raw family lookup).outcome =
      match raw.firstPeripheral with
      | .error cause => .error cause
      | .ok (none, _) => .error .missingReference
      | .ok (some ref, _) =>
          if !inFamily family ref.name then .error (.wrongFamily ref.name family)
          else if (lookup.map fun r => r.contains ref.name).getD true then .ok ref.name
          else .error (.undefinedReference ref.name) := by
  cases first : raw.firstPeripheral with
  | error cause => simp [resolveFirst, first, Logged.outcome_bind, Except.bind]
  | ok pair =>
      obtain ⟨found, count⟩ := pair
      cases found with
      | none => simp [resolveFirst, first, Logged.outcome_bind, Except.bind]
      | some ref =>
          by_cases more : 1 < count <;>
            by_cases member : inFamily family ref.name <;>
            by_cases known : (lookup.map fun r => r.contains ref.name).getD true <;>
            simp [resolveFirst, first, more, member, known, Logged.outcome_bind, Except.bind]

theorem resolveFirst_ok_iff {lookup : Option PeripheralRegistry} :
    (resolveFirst raw family lookup).outcome = .ok name ↔
      raw.referredName? = some name ∧ inFamily family name = true ∧
        ∀ r ∈ lookup, r.contains name = true := by
  rw [outcome_resolveFirst, RawConfig.referredName?_eq]
  cases first : raw.firstPeripheral with
  | error cause => simp [Except.toOption]
  | ok pair =>
      obtain ⟨found, count⟩ := pair
      cases found with
      | none => simp [Except.toOption]
      | some ref =>
          constructor
          · intro resolved
            by_cases member : inFamily family ref.name = true
            · by_cases known : (lookup.map fun r => r.contains ref.name).getD true = true
              · have same : ref.name = name := by simpa [member, known] using resolved
                refine ⟨congrArg some same, same ▸ member, ?_⟩
                rintro r rfl
                simpa [same] using known
              · simp [member, known] at resolved
            · simp [member] at resolved
          · rintro ⟨same, inside, known⟩
            cases same
            cases lookup with
            | none => simp [inside]
            | some r => simp [inside, known r rfl]

/-- A registry adds the check that it has the name, behind every other check. -/
theorem outcome_resolveFirst_some (registry : PeripheralRegistry) :
    (resolveFirst raw family (some registry)).outcome =
      match (resolveFirst raw family none).outcome with
      | .error cause => .error cause
      | .ok name =>
          if registry.contains name then .ok name else .error (.undefinedReference name) := by
  rw [outcome_resolveFirst, outcome_resolveFirst]
  cases first : raw.firstPeripheral with
  | error cause => rfl
  | ok pair =>
      obtain ⟨found, count⟩ := pair
      cases found with
      | none => rfl
      | some ref => by_cases member : inFamily family ref.name <;> simp [member]

end BoardCompiler
