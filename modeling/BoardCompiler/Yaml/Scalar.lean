/-
# BoardCompiler.Yaml.Scalar — what scalars mean

A plain scalar without a tag is null, a boolean, an integer or a float if it is
spelled like one, and a string otherwise; a quoted one is a string. A tag of a
scalar type forces that type. An integer that is too wide for 64 bits but not for
128 is refused, a wider one is a float.
-/
import BoardCompiler.Found
import BoardCompiler.Word
import BoardCompiler.Yaml.Node
import BoardCompiler.Yaml.Value

namespace BoardCompiler.Yaml

set_option autoImplicit false

namespace Scalar

def isNullWord (text : String) : Bool :=
  ["null", "Null", "NULL", "~"].contains text

def bool? (text : String) : Option Bool :=
  if ["true", "True", "TRUE"].contains text then some true
  else if ["false", "False", "FALSE"].contains text then some false
  else none

/-- The value of a digit in bases up to sixteen. -/
def digit? (base : Nat) (c : Char) : Option Nat :=
  let value : Option Nat :=
    if '0' ≤ c ∧ c ≤ '9' then some (c.toNat - '0'.toNat)
    else if 'a' ≤ c ∧ c ≤ 'f' then some (c.toNat - 'a'.toNat + 10)
    else if 'A' ≤ c ∧ c ≤ 'F' then some (c.toNat - 'A'.toNat + 10)
    else none
  value.filter (· < base)

/-- The natural number that one or more digits of a base spell. -/
def natural? (base : Nat) (digits : List Char) : Option Nat :=
  if digits.isEmpty then none
  else digits.foldlM (fun n c => (digit? base c).map (base * n + ·)) 0

/-- Digits after a leading zero are no number, whatever the sign before them. -/
def isPaddedNumber (text : List Char) : Bool :=
  match (Binary64.splitSign text).2 with
  | '0' :: c :: rest => (c :: rest).all Char.isDigit
  | _ => false

/-- The natural number that a text without a sign spells in one of the four bases. -/
def magnitude? : List Char → Option Nat
  | '0' :: 'x' :: digits => natural? 16 digits
  | '0' :: 'o' :: digits => natural? 8 digits
  | '0' :: 'b' :: digits => natural? 2 digits
  | digits => natural? 10 digits

/-- The integer that a text spells, of any size. -/
def integer? (text : List Char) : Option Int :=
  if isPaddedNumber text then none
  else
    let (negative, rest) := Binary64.splitSign text
    (magnitude? rest).map fun n => if negative then -(n : Int) else n

/-- The float that a text spells, if it is finite or one of the words for what is not. -/
def float? (text : List Char) : Option Binary64 :=
  let word := String.ofList text
  if [".inf", ".Inf", ".INF", "+.inf", "+.Inf", "+.INF"].contains word then some (.infinite false)
  else if ["-.inf", "-.Inf", "-.INF"].contains word then some (.infinite true)
  else if [".nan", ".NaN", ".NAN"].contains word then some .nan
  else
    match Binary64.ofText? text with
    | some (.finite negative m e) => some (.finite negative m e)
    | _ => none

/-- An integer by its width, unless it is wider than 128 bits. -/
def sized? (n : Int) : Option Found :=
  if Word.isSigned 64 n || Word.isUnsigned 64 n then some (.integer n)
  else if Word.isSigned 128 n || Word.isUnsigned 128 n then some (.wideInteger n)
  else none

/-- What a plain scalar without a tag is. -/
def resolve (text : List Char) : Found :=
  let word := String.ofList text
  if word.isEmpty || isNullWord word then .null
  else
    match bool? word with
    | some b => .bool b
    | none =>
      match (integer? text).bind sized? with
      | some found => found
      | none =>
        if isPaddedNumber text then .string word
        else
          match float? text with
          | some x => .float x
          | none => .string word

/-- What a scalar is, or the text and the type that its tag asks for in vain. -/
def classify (tag : NodeTag) (plain : Bool) (text : List Char) : Except (String × String) Found :=
  let word := String.ofList text
  let forced := fun (found : Option Found) (expected : String) =>
    match found with
    | some found => Except.ok found
    | none => Except.error (word, expected)
  match tag with
  | .bool => forced ((bool? word).map .bool) "a boolean"
  | .integer => forced ((integer? text).bind sized?) "an integer"
  | .float => forced ((float? text).map .float) "a float"
  | .null => forced (if isNullWord word then some .null else none) "null"
  | .other => .ok (.string word)
  | .none | .own _ | .unreadable => .ok (if plain then resolve text else .string word)

end Scalar

end BoardCompiler.Yaml
