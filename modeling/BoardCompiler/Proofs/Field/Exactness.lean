/-
# BoardCompiler.Proofs.Field.Exactness — when a check takes what it names and refuses for what is broken

`Constraint.Met` says what each constraint asks of a value as it stands, tags
included. The integers that a rule admits are those that meet its constraint
(`IntegerRule.met_constraint_iff`), so a refusal can be held against the value:
`Field.Truthful` is that the constraint it names is not met.

`Field.Exact` is the strict reading of the three checks at one value: each takes the
untagged values of its kind and no other, and refuses truthfully. It holds of every
value but three kinds (`exact_iff_not_misjudged`): an integer that is no signed
64-bit word, which is refused for not being an integer, and a boolean or a listed
string under a tag, which is taken. `wideInteger_misjudged` is the least integer of
the first kind.
-/
import BoardCompiler.Proofs.Field

namespace BoardCompiler

set_option autoImplicit false

open Yaml (Value)

namespace Constraint

/-- What a constraint asks of a value as it stands: a tagged value meets none. -/
def Met : Constraint → Value → Prop
  | .integer, value => ∃ n, value = .integer n
  | .boolean, value => ∃ b, value = .bool b
  | .string, value => ∃ s, value = .string s
  | .atLeast least, value => ∃ n, value = .integer n ∧ least ≤ n
  | .greaterThan bound, value => ∃ n, value = .integer n ∧ bound < n
  | .inRange least greatest, value => ∃ n, value = .integer n ∧ least ≤ n ∧ n ≤ greatest
  | .oneOf set, value => ∃ n, value = .integer n ∧ n ∈ set
  | .choice choices, value => ∃ s, value = .string s ∧ s ∈ choices

end Constraint

namespace IntegerRule

/-- The constraint that a rule puts on a value. -/
def constraint : IntegerRule → Constraint
  | .any => .integer
  | .atLeast least => .atLeast least
  | .greaterThan bound => .greaterThan bound
  | .inRange least greatest => .inRange least greatest
  | .oneOf set => .oneOf set

theorem met_constraint_iff (rule : IntegerRule) (value : Value) :
    rule.constraint.Met value ↔ ∃ n, value = .integer n ∧ rule.Admits n := by
  cases rule <;> simp [constraint, Constraint.Met, Admits]

theorem violation?_eq_some_iff {rule : IntegerRule} {n : Int} {broken : Constraint} :
    rule.violation? n = some broken ↔ ¬rule.Admits n ∧ broken = rule.constraint := by
  by_cases admitted : rule.Admits n
  · have kept : rule.violation? n = none := violation?_eq_none_iff.mpr admitted
    simp [kept, admitted]
  · have found : rule.violation? n = some rule.constraint := by
      cases rule with
      | any => exact absurd trivial admitted
      | atLeast least =>
          have low : n < least := Int.not_le.mp admitted
          simp [violation?, constraint, low]
      | greaterThan bound =>
          have low : n ≤ bound := Int.not_lt.mp admitted
          simp [violation?, constraint, low]
      | inRange least greatest =>
          have outside : n < least ∨ greatest < n := by
            rw [Admits] at admitted
            omega
          simp [violation?, constraint, outside]
      | oneOf set =>
          have absent : n ∉ set := admitted
          simp [violation?, constraint, absent]
    simp [found, admitted, eq_comm]

end IntegerRule

namespace Field

variable {field : String} {value : Value} {rule : IntegerRule} {choices : List String}

/-- The integers of a signed 64-bit word. -/
def SignedWord (n : Int) : Prop := -9223372036854775808 ≤ n ∧ n ≤ 9223372036854775807

instance : DecidablePred SignedWord := fun n =>
  inferInstanceAs (Decidable (-9223372036854775808 ≤ n ∧ n ≤ 9223372036854775807))

theorem isSigned_iff {n : Int} : Word.isSigned 64 n = true ↔ SignedWord n := by
  have limit : Word.bound 63 = 9223372036854775808 := by decide
  rw [Word.isSigned, Bool.and_eq_true, decide_eq_true_eq, decide_eq_true_eq, limit, SignedWord]
  omega

theorem signedWord?_eq_some_iff {n : Int} :
    signedWord? value = some n ↔ value = .integer n ∧ SignedWord n := by
  cases value with
  | integer m =>
      simp only [signedWord?, ← isSigned_iff, Value.integer.injEq]
      by_cases fits : Word.isSigned 64 m = true
      · simp only [fits, if_true, Option.some.injEq]
        constructor
        · rintro rfl
          exact ⟨rfl, fits⟩
        · exact fun same => same.1
      · simp only [fits, Bool.false_eq_true, if_false, reduceCtorEq, false_iff, not_and]
        rintro rfl
        exact fits
  | _ => simp [signedWord?]

theorem asBool?_eq_some_iff {b : Bool} : value.asBool? = some b ↔ value.untagged = .bool b := by
  rw [Value.asBool?]
  cases value.untagged <;> simp

theorem asString?_eq_some_iff {s : String} :
    value.asString? = some s ↔ value.untagged = .string s := by
  rw [Value.asString?]
  cases value.untagged <;> simp

/-- A refusal names the field, shows the value, and names a constraint that the value does
not meet. -/
def Truthful {α : Type} (field : String) (value : Value) (answer : Except FieldError α) : Prop :=
  ∀ error, answer = .error error →
    error.field = field ∧ error.value = value.describe ∧ ¬error.constraint.Met value

theorem truthful_refuse_iff {α : Type} {broken : Constraint} :
    Truthful field value (.error (refuse field value broken) : Except FieldError α) ↔
      ¬broken.Met value := by
  simp [Truthful, refuse]

theorem truthful_ok {α : Type} (taken : α) : Truthful field value (.ok taken) := by
  intro error refused
  cases refused

theorem truthful_boolean : Truthful field value (boolean field value) := by
  rw [boolean]
  cases read : value.asBool? with
  | some b => exact truthful_ok b
  | none =>
      apply truthful_refuse_iff.mpr
      rintro ⟨b, rfl⟩
      cases read

theorem truthful_choice : Truthful field value (choice field value choices) := by
  rw [choice]
  cases read : value.asString? with
  | none =>
      apply truthful_refuse_iff.mpr
      rintro ⟨s, rfl⟩
      cases read
  | some s =>
      by_cases listed : s ∈ choices
      · simp only [listed, if_true]
        exact truthful_ok s
      · simp only [listed, if_false]
        apply truthful_refuse_iff.mpr
        rintro ⟨t, rfl, present⟩
        have same : t = s := Option.some.inj read
        exact listed (same ▸ present)

/-- The check of an integer refuses truthfully unless it is given an integer that no signed
64-bit word holds. -/
theorem truthful_integer_iff :
    Truthful field value (integer field value rule) ↔
      ∀ n, value = .integer n → SignedWord n := by
  rw [integer]
  cases read : signedWord? value with
  | none =>
      -- No word: no integer at all, or one too wide, which is an integer all the same.
      have noWord : ∀ n, value = .integer n → ¬SignedWord n := by
        intro n shape fits
        have word := signedWord?_eq_some_iff.mpr ⟨shape, fits⟩
        simp [read] at word
      rw [truthful_refuse_iff]
      constructor
      · intro notInteger n shape
        exact absurd ⟨n, shape⟩ notInteger
      · rintro fits ⟨n, shape⟩
        exact noWord n shape (fits n shape)
  | some n =>
      obtain ⟨rfl, fits⟩ := signedWord?_eq_some_iff.mp read
      have word : ∀ m, Value.integer n = .integer m → SignedWord m := by
        rintro m ⟨⟩
        exact fits
      refine iff_of_true ?_ word
      dsimp only
      cases broken : rule.violation? n with
      | none => exact truthful_ok n
      | some constraint =>
          obtain ⟨refused, rfl⟩ := IntegerRule.violation?_eq_some_iff.mp broken
          apply truthful_refuse_iff.mpr
          rw [IntegerRule.met_constraint_iff]
          rintro ⟨m, ⟨⟩, admitted⟩
          exact refused admitted

/-- The strict reading of the three checks at one value: each takes the untagged values of
its kind and gives them back, and refuses truthfully. -/
structure Exact (field : String) (value : Value) (rule : IntegerRule) (choices : List String) :
    Prop where
  integer_ok : ∀ n, integer field value rule = .ok n ↔
    value = .integer n ∧ SignedWord n ∧ rule.Admits n
  boolean_ok : ∀ b, boolean field value = .ok b ↔ value = .bool b
  choice_ok : ∀ s, choice field value choices = .ok s ↔ value = .string s ∧ s ∈ choices
  integer_refusal : Truthful field value (integer field value rule)
  boolean_refusal : Truthful field value (boolean field value)
  choice_refusal : Truthful field value (choice field value choices)

/-- The values at which the strict reading fails. -/
inductive Misjudged (choices : List String) : Value → Prop where
  | wideInteger {n : Int} (wide : ¬SignedWord n) : Misjudged choices (.integer n)
  | taggedBoolean {tag : Yaml.Tag} {inner : Value} {b : Bool}
      (boolean : inner.untagged = .bool b) : Misjudged choices (.tagged tag inner)
  | taggedChoice {tag : Yaml.Tag} {inner : Value} {s : String}
      (string : inner.untagged = .string s) (listed : s ∈ choices) :
      Misjudged choices (.tagged tag inner)

theorem boolean_ok_iff_untagged {b : Bool} :
    boolean field value = .ok b ↔ value.untagged = .bool b :=
  boolean_ok_iff.trans asBool?_eq_some_iff

theorem choice_ok_iff_untagged {s : String} :
    choice field value choices = .ok s ↔ value.untagged = .string s ∧ s ∈ choices := by
  rw [choice_ok_iff, asString?_eq_some_iff]

theorem integer_ok_iff_word {n : Int} :
    integer field value rule = .ok n ↔
      value = .integer n ∧ SignedWord n ∧ rule.Admits n := by
  rw [integer_ok_iff, signedWord?_eq_some_iff, and_assoc]

theorem not_misjudged_of_exact (exact : Exact field value rule choices) :
    ¬Misjudged choices value := by
  intro misjudged
  cases misjudged with
  | wideInteger wide =>
      exact wide (truthful_integer_iff.mp exact.integer_refusal _ rfl)
  | @taggedBoolean tag inner b shown =>
      have taken : boolean field (.tagged tag inner) = .ok b :=
        boolean_ok_iff_untagged.mpr shown
      cases (exact.boolean_ok b).mp taken
  | @taggedChoice tag inner s shown listed =>
      have taken : choice field (.tagged tag inner) choices = .ok s :=
        choice_ok_iff_untagged.mpr ⟨shown, listed⟩
      cases ((exact.choice_ok s).mp taken).1

theorem exact_of_not_misjudged (judged : ¬Misjudged choices value) :
    Exact field value rule choices where
  integer_ok _ := integer_ok_iff_word
  boolean_ok b := by
    rw [boolean_ok_iff_untagged]
    cases value with
    | tagged tag inner =>
        simp only [reduceCtorEq, iff_false]
        intro shown
        exact judged (.taggedBoolean shown)
    | _ => rfl
  choice_ok s := by
    rw [choice_ok_iff_untagged]
    cases value with
    | tagged tag inner =>
        simp only [reduceCtorEq, false_and, iff_false, not_and]
        intro shown listed
        exact judged (.taggedChoice shown listed)
    | _ => rfl
  integer_refusal := by
    rw [truthful_integer_iff]
    rintro n rfl
    exact Decidable.byContradiction fun wide => judged (.wideInteger wide)
  boolean_refusal := truthful_boolean
  choice_refusal := truthful_choice

theorem exact_iff_not_misjudged :
    Exact field value rule choices ↔ ¬Misjudged choices value :=
  ⟨not_misjudged_of_exact, exact_of_not_misjudged⟩

/-- What the three checks take, at every value, and where their refusals are true: a boolean
and a string are taken through tags, an integer is not, and only the refusal of an integer
outside the signed 64-bit words names a constraint that the value meets. The strict reading
holds of a value if and only if it is none of the misjudged. -/
theorem checks_take_and_refuse (field : String) (value : Value) (rule : IntegerRule)
    (choices : List String) :
    (∀ n, integer field value rule = .ok n ↔
      value = .integer n ∧ SignedWord n ∧ rule.Admits n) ∧
    (∀ b, boolean field value = .ok b ↔ value.untagged = .bool b) ∧
    (∀ s, choice field value choices = .ok s ↔ value.untagged = .string s ∧ s ∈ choices) ∧
    Truthful field value (boolean field value) ∧
    Truthful field value (choice field value choices) ∧
    (Truthful field value (integer field value rule) ↔
      ∀ n, value = .integer n → SignedWord n) ∧
    (Exact field value rule choices ↔ ¬Misjudged choices value) :=
  ⟨fun _ => integer_ok_iff_word, fun _ => boolean_ok_iff_untagged,
    fun _ => choice_ok_iff_untagged, truthful_boolean, truthful_choice, truthful_integer_iff,
    exact_iff_not_misjudged⟩

/-- A tag does not keep a boolean from being taken, where it keeps an integer from it. -/
example : boolean "invert" (.tagged ⟨"x"⟩ (.bool true)) = .ok true ∧
    integer "pin" (.tagged ⟨"x"⟩ (.integer 4)) .any = .error ⟨"pin", "!x 4", .integer⟩ :=
  ⟨rfl, rfl⟩

/-- The strict reading fails at the least integer above the signed words: a number field
refuses it for not being an integer. -/
theorem wideInteger_misjudged :
    integer "pin" (.integer 9223372036854775808) (.inRange 0 63) =
        .error ⟨"pin", "9223372036854775808", .integer⟩ ∧
      ¬∀ (field : String) (value : Value) (rule : IntegerRule) (choices : List String),
        Exact field value rule choices := by
  constructor
  · rfl
  · intro exact
    have wide : ¬SignedWord 9223372036854775808 := by decide
    exact not_misjudged_of_exact (exact "pin" _ (.inRange 0 63) []) (.wideInteger wide)

end Field

end BoardCompiler
