/-
# BoardCompiler.Proofs.Layout.Checks — the fields of a type as checks, in order

Every field of a layout is one check of the configuration: the value under the key has
to keep the field's constraint, and a refusal names the key, the value and the
constraint it breaks (`FieldSpec.fault?`). A key that is absent is never refused, for
the default keeps the constraint of its own field. `Reads reader specs` says that the
checks of the fields `specs` decide what `reader` gives, whatever was read before; it
passes through a reader step by step (`reads_integer_bind` and its siblings), so a
reader makes the checks of its fields in the order in which it reads them.
-/
import BoardCompiler.Proofs.FieldReader
import BoardCompiler.Proofs.FirstRefusal
import BoardCompiler.Proofs.Layout

namespace BoardCompiler

set_option autoImplicit false

open Yaml (Value)

namespace FieldSpec

def key : FieldSpec → String
  | .integer key _ _ _ => key
  | .boolean key _ _ => key
  | .choice key _ _ => key

/-- The constraint that a value breaks: the kind of the field's values, or else the
field's own rule. -/
def violation? : FieldSpec → Value → Option Constraint
  | .integer _ _ rule _, value =>
      match Field.signedWord? value with
      | none => some .integer
      | some n => rule.violation? n
  | .boolean _ _ _, value =>
      match value.asBool? with
      | none => some .boolean
      | some _ => none
  | .choice _ _ constants, value =>
      match value.asString? with
      | none => some .string
      | some word =>
          if word ∈ constants.map (·.1) then none else some (.choice (constants.map (·.1)))

/-- What the field is refused with: its key, the value under it and the constraint that
the value breaks. -/
def fault? (config : List (Value × Value)) (spec : FieldSpec) : Option FieldError :=
  (Value.lookup spec.key config).bind fun value =>
    (spec.violation? value).map fun constraint => ⟨spec.key, value.describe, constraint⟩

/-! ## Each check of a value decides its field -/

variable {key : String}

theorem decides_integer {default : Int} {rule : IntegerRule} {image : Int → InitValue}
    (passes : Field.integer key (.integer default) rule = .ok default)
    (config : List (Value × Value)) :
    Decides [(FieldSpec.integer key default rule image).fault? config]
      (Field.integer key ((Value.lookup key config).getD (.integer default)) rule) := by
  unfold fault?
  cases found : Value.lookup key config with
  | none => simpa [FieldSpec.key, found, passes] using Decides.cons_none (.of_ok default)
  | some value =>
      simp only [FieldSpec.key, found, Option.bind_some, Option.getD_some, violation?,
        Field.integer, Field.refuse]
      cases Field.signedWord? value with
      | none => exact .of_error _ _
      | some n =>
          cases broken : rule.violation? n with
          | none => simpa [broken] using Decides.cons_none (.of_ok n)
          | some constraint => simpa [broken] using Decides.of_error _ _

theorem decides_boolean {default : Bool} {image : Bool → InitValue}
    (config : List (Value × Value)) :
    Decides [(FieldSpec.boolean key default image).fault? config]
      (Field.boolean key ((Value.lookup key config).getD (.bool default))) := by
  have passes : Field.boolean key (.bool default) = .ok default := rfl
  unfold fault?
  cases found : Value.lookup key config with
  | none => simpa [FieldSpec.key, found, passes] using Decides.cons_none (.of_ok default)
  | some value =>
      simp only [FieldSpec.key, found, Option.bind_some, Option.getD_some, violation?,
        Field.boolean, Field.refuse]
      cases value.asBool? with
      | none => exact .of_error _ _
      | some b => exact .cons_none (.of_ok b)

theorem decides_choice {default : String} {constants : List (String × String)}
    {words : List String} (listed : constants.map (·.1) = words)
    (passes : Field.choice key (.string default) words = .ok default)
    (config : List (Value × Value)) :
    Decides [(FieldSpec.choice key default constants).fault? config]
      (Field.choice key ((Value.lookup key config).getD (.string default)) words) := by
  unfold fault?
  cases found : Value.lookup key config with
  | none => simpa [FieldSpec.key, found, passes] using Decides.cons_none (.of_ok default)
  | some value =>
      simp only [FieldSpec.key, found, Option.bind_some, Option.getD_some, violation?, listed,
        Field.choice, Field.refuse]
      cases value.asString? with
      | none => exact .of_error _ _
      | some word =>
          by_cases member : word ∈ words
          · simpa [member] using Decides.cons_none (.of_ok word)
          · simpa [member] using Decides.of_error _ _

end FieldSpec

/-! ## Readers -/

namespace FieldReader

variable {α β : Type} {specs : List FieldSpec} {key : String}

/-- The checks of these fields, in order, decide what the reader gives. -/
def Reads (reader : FieldReader α) (specs : List FieldSpec) : Prop :=
  ∀ fields : Fields,
    Decides (specs.map fun spec => spec.fault? fields.entries) (reader.runOn fields).1

theorem reads_pure (a : α) : (pure a : FieldReader α).Reads [] := fun _ => .of_ok a

theorem reads_checked_bind {spec : FieldSpec} {default : Value}
    {check : Value → Except FieldError α} {next : α → FieldReader β}
    (first : ∀ config,
      Decides [spec.fault? config] (check ((Value.lookup key config).getD default)))
    (rest : ∀ a, (next a).Reads specs) :
    (checked key default check >>= next).Reads (spec :: specs) := by
  intro fields
  rw [runOn_checked_bind]
  have decides := (first fields.entries).bind (f := fun a =>
      ((next a).runOn { fields with read := key :: fields.read }).1)
    (specs.map (·.fault? fields.entries))
    fun a _ => rest a { fields with read := key :: fields.read }
  rw [List.map_cons]
  cases outcome : check ((Value.lookup key fields.entries).getD default) <;>
    simpa [outcome, Except.bind] using decides

theorem reads_integer_bind {default : Int} {rule : IntegerRule} {image : Int → InitValue}
    {next : Int → FieldReader β}
    (passes : Field.integer key (.integer default) rule = .ok default)
    (rest : ∀ n, (next n).Reads specs) :
    (integer key default rule >>= next).Reads (.integer key default rule image :: specs) :=
  reads_checked_bind (FieldSpec.decides_integer passes) rest

theorem reads_flag_bind {default : Int} {image : Int → InitValue} {next : Int → FieldReader β}
    (passes : Field.integer key (.integer default) .flag = .ok default)
    (rest : ∀ n, (next n).Reads specs) :
    (flag key default >>= next).Reads (.integer key default .flag image :: specs) :=
  reads_integer_bind passes rest

theorem reads_boolean_bind {default : Bool} {image : Bool → InitValue}
    {next : Bool → FieldReader β} (rest : ∀ b, (next b).Reads specs) :
    (boolean key default >>= next).Reads (.boolean key default image :: specs) :=
  reads_checked_bind FieldSpec.decides_boolean rest

theorem reads_choice_bind {default : String} {constants : List (String × String)}
    {words : List String} {next : String → FieldReader β}
    (listed : constants.map (·.1) = words)
    (passes : Field.choice key (.string default) words = .ok default)
    (rest : ∀ word, (next word).Reads specs) :
    (choice key default words >>= next).Reads (.choice key default constants :: specs) :=
  reads_checked_bind (FieldSpec.decides_choice listed passes) rest

end FieldReader

/-! ## The fields of a layout -/

namespace MemberSpec

def fields : MemberSpec → List FieldSpec
  | .field spec => [spec]
  | .bits fields => fields.map (·.2)
  | .fixed _ => []

end MemberSpec

namespace Layout

/-- The fields that fill the members, in the members' order. -/
def fields (layout : Layout) : List FieldSpec :=
  layout.members.flatMap fun member => member.2.fields

end Layout

end BoardCompiler
