/-
# BoardCompiler.Proofs.Layout — what the initializer of a type holds

A `Layout` documents a type: the structure that it initializes and the members in
their order, each with the key that it is configured by, the values that the key
takes, the default and the form in which a value stands in the initializer.
`Layout.Describes` says that a descriptor is laid out so for a configuration: exactly
these members, and under each the image of the value that the check of its key gives
back, or of the default where the key is absent.

A default is itself a value that the key takes. With that, what stands for a field
comes down to the one check that a reader makes of it (`exists_holds_integer_iff` and
its siblings), and a layout to the checks of its fields in order
(`exists_fills_cons_iff`).
-/
import BoardCompiler.Descriptor
import BoardCompiler.Proofs.Field
import Mathlib.Data.List.Forall2

namespace BoardCompiler

set_option autoImplicit false

open Yaml (Value)

/-! ## Fields -/

/-- A field of the configuration: its key, its default, the values that it takes and
the form in which they stand in the initializer. A choice is between words, each of
which stands for a constant. -/
inductive FieldSpec where
  | integer (key : String) (default : Int) (rule : IntegerRule) (image : Int → InitValue)
  | boolean (key : String) (default : Bool) (image : Bool → InitValue)
  | choice (key : String) (default : String) (constants : List (String × String))

/-- The value that a key gives: what the check makes of the value under it, or the
default where the key is absent. -/
def Configured {α : Type} (config : List (Value × Value)) (key : String) (default : α)
    (check : Value → Except FieldError α) (a : α) : Prop :=
  match Value.lookup key config with
  | none => a = default
  | some value => check value = .ok a

/-- A default that passes the check may stand for the absent value. -/
theorem configured_iff {α : Type} {config : List (Value × Value)} {key : String} {default a : α}
    {check : Value → Except FieldError α} {value : Value} (passes : check value = .ok default) :
    Configured config key default check a ↔
      check ((Value.lookup key config).getD value) = .ok a := by
  unfold Configured
  cases Value.lookup key config with
  | none => simp [passes, eq_comm]
  | some found => rfl

namespace FieldSpec

/-- The value stands for the field: it is the image of an admitted integer, of a
boolean, or the constant of a word, and that is what the configuration gives. -/
def Holds (config : List (Value × Value)) : FieldSpec → InitValue → Prop
  | .integer key default rule image, v =>
      ∃ n, Configured config key default (fun value => Field.integer key value rule) n ∧
        rule.Admits n ∧ v = image n
  | .boolean key default image, v =>
      ∃ b, Configured config key default (fun value => Field.boolean key value) b ∧ v = image b
  | .choice key default constants, v =>
      ∃ word constant,
        Configured config key default
          (fun value => Field.choice key value (constants.map (·.1))) word ∧
        (word, constant) ∈ constants ∧ v = .text constant

variable {config : List (Value × Value)} {key : String} {post : InitValue → Prop}

theorem exists_holds_integer_iff {default : Int} {rule : IntegerRule} {image : Int → InitValue}
    (passes : Field.integer key (.integer default) rule = .ok default) :
    (∃ v, (FieldSpec.integer key default rule image).Holds config v ∧ post v) ↔
      ∃ n, Field.integer key ((Value.lookup key config).getD (.integer default)) rule = .ok n ∧
        post (image n) := by
  have configured : ∀ n,
      Configured config key default (fun value => Field.integer key value rule) n ↔
        Field.integer key ((Value.lookup key config).getD (.integer default)) rule = .ok n :=
    fun _ => configured_iff passes
  simp only [Holds, configured]
  constructor
  · rintro ⟨_, ⟨n, checked, -, rfl⟩, held⟩
    exact ⟨n, checked, held⟩
  · rintro ⟨n, checked, held⟩
    exact ⟨_, ⟨n, checked, (Field.integer_ok_iff.mp checked).2, rfl⟩, held⟩

theorem exists_holds_boolean_iff {default : Bool} {image : Bool → InitValue} :
    (∃ v, (FieldSpec.boolean key default image).Holds config v ∧ post v) ↔
      ∃ b, Field.boolean key ((Value.lookup key config).getD (.bool default)) = .ok b ∧
        post (image b) := by
  have passes : Field.boolean key (.bool default) = .ok default := rfl
  have configured : ∀ b,
      Configured config key default (fun value => Field.boolean key value) b ↔
        Field.boolean key ((Value.lookup key config).getD (.bool default)) = .ok b :=
    fun _ => configured_iff passes
  simp only [Holds, configured]
  constructor
  · rintro ⟨_, ⟨b, checked, rfl⟩, held⟩
    exact ⟨b, checked, held⟩
  · rintro ⟨b, checked, held⟩
    exact ⟨_, ⟨b, checked, rfl⟩, held⟩

/-- The constants of a choice follow one rule where each of them is made of its word. -/
theorem exists_holds_choice_iff {default : String} {constants : List (String × String)}
    {words : List String} {name : String → String}
    (table : constants = words.map fun word => (word, name word))
    (passes : Field.choice key (.string default) words = .ok default) :
    (∃ v, (FieldSpec.choice key default constants).Holds config v ∧ post v) ↔
      ∃ word, Field.choice key ((Value.lookup key config).getD (.string default)) words =
          .ok word ∧
        post (.text (name word)) := by
  have listed : constants.map (·.1) = words := by simp [table, Function.comp_def]
  have configured : ∀ word,
      Configured config key default (fun value => Field.choice key value words) word ↔
        Field.choice key ((Value.lookup key config).getD (.string default)) words = .ok word :=
    fun _ => configured_iff passes
  simp only [Holds, listed, configured]
  constructor
  · rintro ⟨_, ⟨word, constant, checked, entry, rfl⟩, held⟩
    obtain ⟨_, -, same⟩ := List.mem_map.mp (table ▸ entry)
    cases same
    exact ⟨word, checked, held⟩
  · rintro ⟨word, checked, held⟩
    have member : word ∈ words := (Field.choice_ok_iff.mp checked).2
    have entry : (word, name word) ∈ constants := table ▸ List.mem_map.mpr ⟨word, member, rfl⟩
    exact ⟨_, ⟨word, _, checked, entry, rfl⟩, held⟩

end FieldSpec

/-! ## Members -/

/-- Entries that are the specified members, in their order, each with a value that
stands for its specification. -/
def Fills {σ : Type} (holds : σ → InitValue → Prop) (specs : List (String × σ)) (m : InitMap) :
    Prop :=
  List.Forall₂ (fun spec entry => entry.1 = spec.1 ∧ holds spec.2 entry.2) specs m.entries

section Fills

variable {σ : Type} {holds : σ → InitValue → Prop} {post : InitMap → Prop}

theorem exists_fills_nil_iff : (∃ m, Fills holds [] m ∧ post m) ↔ post ⟨[]⟩ := by
  constructor
  · rintro ⟨⟨entries⟩, filled, held⟩
    cases filled
    exact held
  · intro held
    exact ⟨⟨[]⟩, .nil, held⟩

theorem exists_fills_cons_iff {name : String} {spec : σ} {rest : List (String × σ)} :
    (∃ m, Fills holds ((name, spec) :: rest) m ∧ post m) ↔
      ∃ v, holds spec v ∧ ∃ m, Fills holds rest m ∧ post ⟨(name, v) :: m.entries⟩ := by
  constructor
  · rintro ⟨⟨entries⟩, filled, held⟩
    obtain _ | ⟨⟨same, stands⟩, tail⟩ := filled
    cases same
    exact ⟨_, stands, ⟨_⟩, tail, held⟩
  · rintro ⟨v, stands, m, tail, held⟩
    exact ⟨⟨(name, v) :: m.entries⟩, List.Forall₂.cons ⟨rfl, stands⟩ tail, held⟩

end Fills

/-- A member of the structure: a field, the structure's bits in a map of their own, or
a value that no configuration changes. -/
inductive MemberSpec where
  | field (spec : FieldSpec)
  | bits (fields : List (String × FieldSpec))
  | fixed (value : InitValue)

namespace MemberSpec

def Holds (config : List (Value × Value)) : MemberSpec → InitValue → Prop
  | .field spec, v => spec.Holds config v
  | .bits fields, v => ∃ m, Fills (FieldSpec.Holds config) fields m ∧ v = .nested m
  | .fixed value, v => v = value

variable {config : List (Value × Value)} {post : InitValue → Prop}

theorem exists_holds_field_iff {spec : FieldSpec} :
    (∃ v, (MemberSpec.field spec).Holds config v ∧ post v) ↔
      ∃ v, spec.Holds config v ∧ post v :=
  Iff.rfl

theorem exists_holds_bits_iff {fields : List (String × FieldSpec)} :
    (∃ v, (MemberSpec.bits fields).Holds config v ∧ post v) ↔
      ∃ m, Fills (FieldSpec.Holds config) fields m ∧ post (.nested m) := by
  constructor
  · rintro ⟨_, ⟨m, filled, rfl⟩, held⟩
    exact ⟨m, filled, held⟩
  · rintro ⟨m, filled, held⟩
    exact ⟨_, ⟨m, filled, rfl⟩, held⟩

theorem exists_holds_fixed_iff {value : InitValue} :
    (∃ v, (MemberSpec.fixed value).Holds config v ∧ post v) ↔ post value :=
  exists_eq_left

end MemberSpec

/-! ## Layouts -/

structure Layout where
  structType : String
  members : List (String × MemberSpec)

namespace Layout

/-- The descriptor initializes the documented structure, leaves the variable to the
entity's name, and has the documented members for this configuration and no others. -/
structure Describes (layout : Layout) (config : List (Value × Value))
    (descriptor : StructDescriptor) : Prop where
  structType : descriptor.structType = layout.structType
  structVar : descriptor.structVar = none
  members : Fills (MemberSpec.Holds config) layout.members descriptor.structInit

theorem describes_iff {layout : Layout} {config : List (Value × Value)}
    {descriptor : StructDescriptor} :
    layout.Describes config descriptor ↔
      ∃ m, Fills (MemberSpec.Holds config) layout.members m ∧
        .of layout.structType m = descriptor := by
  constructor
  · rintro ⟨type, var, filled⟩
    obtain ⟨structType, structVar, structInit⟩ := descriptor
    cases type
    cases var
    exact ⟨structInit, filled, rfl⟩
  · rintro ⟨m, filled, rfl⟩
    exact ⟨rfl, rfl, filled⟩

end Layout

end BoardCompiler
