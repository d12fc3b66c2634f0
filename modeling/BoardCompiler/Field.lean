/-
# BoardCompiler.Field — checking one configuration value

Each check takes a YAML value and gives back what it holds, or the constraint it
breaks. A boolean and a string are read through tags, an integer is not.
-/
import BoardCompiler.Error
import BoardCompiler.Word
import BoardCompiler.Yaml.Value

namespace BoardCompiler

set_option autoImplicit false

open Yaml (Value)

/-- Which integers a field takes. -/
inductive IntegerRule where
  | any
  | atLeast (least : Int)
  | greaterThan (bound : Int)
  | inRange (least greatest : Int)
  | oneOf (set : List Int)
  deriving DecidableEq, Repr

namespace IntegerRule

/-- The two values of a flag. -/
def flag : IntegerRule := .oneOf [0, 1]

/-- The constraint that `n` breaks, if any. -/
def violation? (n : Int) : IntegerRule → Option Constraint
  | .any => none
  | .atLeast least => if n < least then some (.atLeast least) else none
  | .greaterThan bound => if n ≤ bound then some (.greaterThan bound) else none
  | .inRange least greatest =>
    if n < least ∨ greatest < n then some (.inRange least greatest) else none
  | .oneOf set => if n ∈ set then none else some (.oneOf set)

end IntegerRule

namespace Field

def refuse (field : String) (value : Value) (constraint : Constraint) : FieldError :=
  ⟨field, value.describe, constraint⟩

/-- The untagged integer of a value, if it is a signed 64-bit word. -/
def signedWord? : Value → Option Int
  | .integer n => if Word.isSigned 64 n then some n else none
  | _ => none

/-- An integer that keeps the rule. -/
def integer (field : String) (value : Value) (rule : IntegerRule) : Except FieldError Int :=
  match signedWord? value with
  | none => .error (refuse field value .integer)
  | some n =>
    match rule.violation? n with
    | some constraint => .error (refuse field value constraint)
    | none => .ok n

/-- A boolean. -/
def boolean (field : String) (value : Value) : Except FieldError Bool :=
  match value.asBool? with
  | some b => .ok b
  | none => .error (refuse field value .boolean)

/-- One of the listed strings. -/
def choice (field : String) (value : Value) (choices : List String) : Except FieldError String :=
  match value.asString? with
  | none => .error (refuse field value .string)
  | some s => if s ∈ choices then .ok s else .error (refuse field value (.choice choices))

end Field

end BoardCompiler
