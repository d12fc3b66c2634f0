/-
# BoardCompiler.Toml.Scalar — numbers, booleans and dates

A scalar that is no string is a run of characters up to a blank or a mark of
punctuation. `Scalar.ofText?` reads the whole run: a boolean, a date or a time of
day, an integer in one of four bases, or a float. Digits may be parted by single
underscores, decimals have no padding zeros, and dates exist in the calendar.
-/
import BoardCompiler.Binary64.Decimal
import BoardCompiler.Word

namespace BoardCompiler.Toml

set_option autoImplicit false

inductive Scalar where
  | integer (value : Int)
  | float (value : Binary64)
  | boolean (value : Bool)
  | dateTime (text : String)
  deriving Repr

namespace Scalar

/-! ## Digits -/

def isHexDigit (c : Char) : Bool :=
  c.isDigit || ('a' ≤ c && c ≤ 'f') || ('A' ≤ c && c ≤ 'F')

def isOctalDigit (c : Char) : Bool := '0' ≤ c && c ≤ '7'

def isBinaryDigit (c : Char) : Bool := c = '0' || c = '1'

/-- The number of a digit. -/
def digitValue (c : Char) : Nat :=
  if c.isDigit then c.toNat - '0'.toNat
  else if 'a' ≤ c then c.toNat - 'a'.toNat + 10
  else c.toNat - 'A'.toNat + 10

/-- One or more digits with single underscores between them, without the underscores. -/
def digits? (isDigit : Char → Bool) : List Char → Option (List Char)
  | [] => none
  | [c] => if isDigit c then some [c] else none
  | c :: '_' :: rest => if isDigit c then (digits? isDigit rest).map (c :: ·) else none
  | c :: d :: rest => if isDigit c then (digits? isDigit (d :: rest)).map (c :: ·) else none

/-- Digits whose first is zero only if it is alone. -/
def decimalDigits? (text : List Char) : Option (List Char) :=
  match digits? Char.isDigit text with
  | some ('0' :: _ :: _) => none
  | digits => digits

/-- The natural number that digits of a base spell. -/
def natural (base : Nat) (digits : List Char) : Nat :=
  digits.foldl (fun n c => base * n + digitValue c) 0

/-! ## Integers and floats -/

/-- An integer of 64 bits. -/
def sized? (n : Int) : Option Scalar :=
  if Word.isSigned 64 n then some (.integer n) else none

/-- Bases other than ten take no sign. -/
def integer? : List Char → Option Scalar
  | '0' :: 'x' :: text => (digits? isHexDigit text).bind fun ds => sized? (natural 16 ds)
  | '0' :: 'o' :: text => (digits? isOctalDigit text).bind fun ds => sized? (natural 8 ds)
  | '0' :: 'b' :: text => (digits? isBinaryDigit text).bind fun ds => sized? (natural 2 ds)
  | text =>
    let (negative, digits) := Binary64.splitSign text
    (decimalDigits? digits).bind fun ds =>
      sized? (if negative then -(natural 10 ds : Int) else natural 10 ds)

def isExponentMark (c : Char) : Bool := c = 'e' || c = 'E'

/-- The power of ten that an exponent part spells. -/
def exponent? : List Char → Option Int
  | [] => some 0
  | _ :: text =>
    let (negative, digits) := Binary64.splitSign text
    (digits? Char.isDigit digits).map fun ds =>
      if negative then -(natural 10 ds : Int) else natural 10 ds

/-- The digits of a fraction part. -/
def fraction? : List Char → Option (List Char)
  | [] => some []
  | _ :: text => digits? Char.isDigit text

/-- A decimal with a fraction or an exponent. One too large to be finite is refused
unless it is negative. -/
def decimal? (text : List Char) : Option Scalar :=
  let (negative, rest) := Binary64.splitSign text
  let (whole, rest) := rest.span fun c => !(c = '.' || isExponentMark c)
  let (fraction, power) := rest.span fun c => !isExponentMark c
  if rest.isEmpty then none
  else
    match decimalDigits? whole, fraction? fraction, exponent? power with
    | some whole, some fraction, some power =>
      match Binary64.ofDecimal negative (natural 10 (whole ++ fraction))
          (power - fraction.length) with
      | .infinite false => none
      | x => some (.float x)
    | _, _, _ => none

def float? (text : List Char) : Option Scalar :=
  let (negative, rest) := Binary64.splitSign text
  if rest = ['i', 'n', 'f'] then some (.float (.infinite negative))
  else if rest = ['n', 'a', 'n'] then some (.float .nan)
  else decimal? text

/-! ## Dates and times -/

/-- A number of exactly two digits. -/
def twoDigits? (a b : Char) : Option Nat :=
  if a.isDigit && b.isDigit then some (natural 10 [a, b]) else none

def isLeapYear (year : Nat) : Bool := year % 4 = 0 && (year % 100 ≠ 0 || year % 400 = 0)

def daysInMonth (year month : Nat) : Nat :=
  if month = 2 then (if isLeapYear year then 29 else 28)
  else if month = 4 || month = 6 || month = 9 || month = 11 then 30
  else 31

def isDayOf (year month day : Nat) : Bool :=
  1 ≤ month && month ≤ 12 && 1 ≤ day && day ≤ daysInMonth year month

/-- What follows a date at the start of a text. -/
def afterDate? : List Char → Option (List Char)
  | a :: b :: c :: d :: '-' :: e :: f :: '-' :: g :: h :: rest => do
    let century ← twoDigits? a b
    let year ← twoDigits? c d
    let month ← twoDigits? e f
    let day ← twoDigits? g h
    if isDayOf (100 * century + year) month day then some rest else none
  | _ => none

/-- What follows the fraction of a second, if there is one. -/
def afterFraction : List Char → List Char
  | '.' :: c :: rest => if c.isDigit then rest.dropWhile Char.isDigit else '.' :: c :: rest
  | rest => rest

/-- What follows a time of day at the start of a text. A leap second is a second. -/
def afterTime? : List Char → Option (List Char)
  | a :: b :: ':' :: c :: d :: ':' :: e :: f :: rest => do
    let hour ← twoDigits? a b
    let minute ← twoDigits? c d
    let second ← twoDigits? e f
    if hour ≤ 23 && minute ≤ 59 && second ≤ 60 then some (afterFraction rest) else none
  | _ => none

/-- Whether a text is nothing or an offset from universal time. -/
def isOffset : List Char → Bool
  | [] | ['Z'] | ['z'] => true
  | [sign, a, b, ':', c, d] =>
    (sign = '+' || sign = '-') &&
      match twoDigits? a b, twoDigits? c d with
      | some hour, some minute => hour ≤ 23 && minute ≤ 59
      | _, _ => false
  | _ => false

def isDateMark (c : Char) : Bool := c = 'T' || c = 't' || c = ' '

def isDateTime (text : List Char) : Bool :=
  match afterDate? text with
  | some [] => true
  | some (mark :: rest) =>
    isDateMark mark &&
      match afterTime? rest with
      | some rest => isOffset rest
      | none => false
  | none => afterTime? text = some []

/-- What a whole run of characters spells. -/
def ofText? (text : List Char) : Option Scalar :=
  if text = ['t', 'r', 'u', 'e'] then some (.boolean true)
  else if text = ['f', 'a', 'l', 's', 'e'] then some (.boolean false)
  else if isDateTime text then some (.dateTime (String.ofList text))
  else (integer? text).orElse fun _ => float? text

end Scalar

end BoardCompiler.Toml
