/-
# BoardCompiler.Proofs.Field — what the checks of a value accept

`IntegerRule.Admits` says which integers a rule takes, and a rule finds a violation
in exactly the others (`violation?_eq_none_iff`). With that, each check accepts the
values of its kind that keep its constraint, and gives back what they hold
(`integer_ok_iff`, `boolean_ok_iff`, `choice_ok_iff`).
-/
import BoardCompiler.Field

namespace BoardCompiler

set_option autoImplicit false

open Yaml (Value)

namespace IntegerRule

/-- The integers that keep a rule. -/
def Admits : IntegerRule → Int → Prop
  | .any, _ => True
  | .atLeast least, n => least ≤ n
  | .greaterThan bound, n => bound < n
  | .inRange least greatest, n => least ≤ n ∧ n ≤ greatest
  | .oneOf set, n => n ∈ set

theorem violation?_eq_none_iff {rule : IntegerRule} {n : Int} :
    rule.violation? n = none ↔ rule.Admits n := by
  cases rule <;> simp [violation?, Admits]

end IntegerRule

namespace Field

variable {field : String} {value : Value}

theorem integer_ok_iff {rule : IntegerRule} {n : Int} :
    integer field value rule = .ok n ↔ signedWord? value = some n ∧ rule.Admits n := by
  rw [integer, ← IntegerRule.violation?_eq_none_iff]
  cases signedWord? value with
  | none => simp
  | some m =>
      simp only [Option.some.injEq]
      cases broken : rule.violation? m with
      | none =>
          simp only [Except.ok.injEq, iff_self_and]
          rintro rfl
          exact broken
      | some constraint =>
          simp only [reduceCtorEq, false_iff, not_and]
          rintro rfl
          simp [broken]

theorem boolean_ok_iff {b : Bool} : boolean field value = .ok b ↔ value.asBool? = some b := by
  rw [boolean]
  cases value.asBool? <;> simp

theorem choice_ok_iff {choices : List String} {s : String} :
    choice field value choices = .ok s ↔ value.asString? = some s ∧ s ∈ choices := by
  rw [choice]
  cases value.asString? with
  | none => simp
  | some t =>
      simp only [Option.some.injEq]
      by_cases listed : t ∈ choices
      · simp only [listed, if_true, Except.ok.injEq, iff_self_and]
        rintro rfl
        exact listed
      · simp only [listed, if_false, reduceCtorEq, false_iff, not_and]
        rintro rfl
        exact listed

end Field

end BoardCompiler
