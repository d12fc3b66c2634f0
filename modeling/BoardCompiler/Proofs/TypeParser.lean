/-
# BoardCompiler.Proofs.TypeParser — parsers made of a reader

What a parser that is given by its reader accepts, it makes of the settings read
(`PeripheralParser.ofReader_ok_iff`, `DeviceParser.ofReader_ok_iff`). A device parser
that binds its reference (`DeviceParser.Binds`) resolves it first and goes on with
the name alone; so its outcome with a registry is its outcome without one, unless
the registry does not have the name (`outcome_parse_some`). Every device parser
that is given by its reader does so.
-/
import BoardCompiler.Proofs.Reference
import BoardCompiler.TypeParser

namespace BoardCompiler

set_option autoImplicit false

section OfReader

variable {α : Type} {kind family name : String} {includes : List String}
  {reader : FieldReader α} {raw : RawConfig} {result : StructDescriptor}

theorem PeripheralParser.ofReader_ok_iff {descriptor : α → StructDescriptor} :
    ((ofReader kind includes reader descriptor).parse name raw).outcome = .ok result ↔
      ∃ settings, (readConfig name kind raw reader).outcome = .ok settings ∧
        descriptor settings = result := by
  simp only [ofReader, aboutEntity]
  rw [Logged.outcome_mapError_eq_ok_iff, Logged.outcome_map_eq_ok_iff]

theorem DeviceParser.ofReader_ok_iff {lookup : Option PeripheralRegistry}
    {descriptor : String → String → α → StructDescriptor} :
    ((ofReader kind family includes reader descriptor).parse name raw lookup).outcome =
        .ok result ↔
      ∃ ref settings, (resolveFirst raw family lookup).outcome = .ok ref ∧
        (readConfig name kind raw reader).outcome = .ok settings ∧
        descriptor name ref settings = result := by
  simp only [ofReader, aboutEntity]
  rw [Logged.outcome_mapError_eq_ok_iff, Logged.outcome_bind_eq_ok_iff]
  simp only [Logged.outcome_map_eq_ok_iff, exists_and_left]

end OfReader

namespace DeviceParser

/-- The parser resolves its reference before all else, goes on with its name alone,
and puts that name into the given member. -/
def Binds (parser : DeviceParser) (member : String) : Prop :=
  ∃ finish : String → RawConfig → String → Logged ErrorCause StructDescriptor,
    (∀ name raw lookup, parser.parse name raw lookup =
      aboutEntity name parser.typeName
        (resolveFirst raw parser.family lookup >>= finish name raw)) ∧
    ∀ name raw ref descriptor, (finish name raw ref).outcome = .ok descriptor →
      descriptor.structInit.get? member = some (.text ref)

theorem ofReader_binds {α : Type} {kind family member : String} {includes : List String}
    {reader : FieldReader α} {descriptor : String → String → α → StructDescriptor}
    (holds : ∀ name ref settings,
      (descriptor name ref settings).structInit.get? member = some (.text ref)) :
    (ofReader kind family includes reader descriptor).Binds member := by
  refine ⟨fun name raw ref => descriptor name ref <$> readConfig name kind raw reader,
    fun _ _ _ => rfl, ?_⟩
  intro name raw ref result finished
  obtain ⟨settings, -, rfl⟩ := Logged.outcome_map_eq_ok_iff.mp finished
  exact holds name ref settings

namespace Binds

variable {parser : DeviceParser} {member name ref : String} {raw : RawConfig}
  {descriptor : StructDescriptor} (binds : parser.Binds member)
include binds

/-- A device that parses has a reference to a peripheral of its family, registered
where there is a registry, and its descriptor holds the name unchanged. -/
theorem reference_of_ok {lookup : Option PeripheralRegistry}
    (parses : (parser.parse name raw lookup).outcome = .ok descriptor) :
    ∃ ref, raw.referredName? = some ref ∧ inFamily parser.family ref = true ∧
      (∀ r ∈ lookup, r.contains ref = true) ∧
      descriptor.structInit.get? member = some (.text ref) := by
  obtain ⟨finish, parse, holds⟩ := binds
  rw [parse, aboutEntity, Logged.outcome_mapError_eq_ok_iff,
    Logged.outcome_bind_eq_ok_iff] at parses
  obtain ⟨ref, resolved, finished⟩ := parses
  obtain ⟨first, inside, known⟩ := resolveFirst_ok_iff.mp resolved
  exact ⟨ref, first, inside, known, holds name raw ref descriptor finished⟩

/-- The outcome with a registry is the outcome without one, unless the registry does
not have the reference. -/
theorem outcome_parse_some (name : String) (raw : RawConfig) (registry : PeripheralRegistry) :
    (parser.parse name raw (some registry)).outcome = (parser.parse name raw none).outcome ∨
      ∃ ref, raw.referredName? = some ref ∧ registry.contains ref = false ∧
        (parser.parse name raw (some registry)).outcome =
          .error ⟨name, parser.typeName, .undefinedReference ref⟩ := by
  obtain ⟨finish, parse, -⟩ := binds
  simp only [parse, aboutEntity, Logged.outcome_mapError, Logged.outcome_bind,
    outcome_resolveFirst_some]
  cases resolved : (resolveFirst raw parser.family none).outcome with
  | error cause => exact .inl rfl
  | ok ref =>
      obtain ⟨first, -⟩ := resolveFirst_ok_iff.mp resolved
      by_cases known : registry.contains ref = true
      · exact .inl (by simp [known])
      · refine .inr ⟨ref, first, by simpa using known, ?_⟩
        simp only [Except.bind, known, if_false, Bool.false_eq_true]
        rfl

/-- Where the parser succeeds without a registry, a registry without the name makes
it fail. -/
theorem undefined_of_ok {registry : PeripheralRegistry}
    (parses : (parser.parse name raw none).outcome = .ok descriptor)
    (first : raw.referredName? = some ref) (unknown : registry.contains ref = false) :
    (parser.parse name raw (some registry)).outcome =
      .error ⟨name, parser.typeName, .undefinedReference ref⟩ := by
  rcases binds.outcome_parse_some name raw registry with same | ⟨other, named, -, fails⟩
  · obtain ⟨other, named, -, known, -⟩ := binds.reference_of_ok (same.trans parses)
    cases first.symm.trans named
    simp [unknown] at known
  · cases first.symm.trans named
    exact fails

end Binds

end DeviceParser

end BoardCompiler
