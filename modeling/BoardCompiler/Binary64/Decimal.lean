/-
# BoardCompiler.Binary64.Decimal — reading and writing decimals

`ofText?` reads a decimal with optional sign, fraction and exponent. A finite
number is written with the fewest digits that read back (`Binary64.shortest`):
positionally for exponents in a window and with a power of ten outside it
(`text`), or always positionally (`positional`).
-/
import BoardCompiler.Binary64.Basic

namespace BoardCompiler.Binary64

set_option autoImplicit false

/-- The natural number that decimal digits spell. -/
def digitsValue (ds : List Char) : Nat :=
  ds.foldl (fun n c => 10 * n + (c.toNat - '0'.toNat)) 0

/-- The text without a leading sign, and whether the sign was a minus. -/
def splitSign : List Char → Bool × List Char
  | '-' :: rest => (true, rest)
  | '+' :: rest => (false, rest)
  | rest => (false, rest)

/-- The power that an exponent part adds: nothing, or `e`, an optional sign and
at least one digit. -/
def exponentOf? : List Char → Option Int
  | [] => some 0
  | c :: rest =>
    let (negative, ds) := splitSign rest
    if (c = 'e' || c = 'E') && !ds.isEmpty && ds.all Char.isDigit then
      some (if negative then -(digitsValue ds : Int) else digitsValue ds)
    else none

/-- The number nearest to the decimal that the whole text spells. -/
def ofText? (text : List Char) : Option Binary64 :=
  let (negative, rest) := splitSign text
  let (whole, rest) := rest.span Char.isDigit
  let (fraction, rest) :=
    match rest with
    | '.' :: rest => rest.span Char.isDigit
    | rest => ([], rest)
  if whole.isEmpty && fraction.isEmpty then none
  else
    (exponentOf? rest).map fun power =>
      ofDecimal negative (digitsValue (whole ++ fraction)) (power - fraction.length)

/-- Zeros in a row. -/
def zeros (n : Nat) : List Char := List.replicate n '0'

/-- `digits · 10^power` without an exponent, with at least one digit on either
side of the point. -/
def positionalDigits (digits : List Char) (power : Int) : List Char :=
  if 0 ≤ power then digits ++ zeros power.toNat ++ ['.', '0']
  else
    let places := (-power).toNat
    if places < digits.length then
      digits.take (digits.length - places) ++ '.' :: digits.drop (digits.length - places)
    else '0' :: '.' :: zeros (places - digits.length) ++ digits

/-- `digits · 10^power` with one digit before the point and a power of ten; the
point is left out when nothing follows it. -/
def scientificDigits (digits : List Char) (power : Int) : List Char :=
  let exponent := power + digits.length - 1
  let tail := 'e' :: (toString exponent).toList
  match digits with
  | [d] => d :: tail
  | d :: ds => d :: '.' :: ds ++ tail
  | [] => tail

def signed (negative : Bool) (text : List Char) : String :=
  String.ofList (if negative then '-' :: text else text)

/-- Decimal exponents from -5 to 15 are written positionally. -/
def text : Binary64 → String
  | .nan => ".nan"
  | .infinite negative => signed negative ".inf".toList
  | .finite negative m e =>
    let (digits, power) := shortest m e
    let ds := Nat.toDigits 10 digits
    let exponent := power + ds.length - 1
    signed negative <|
      if -5 ≤ exponent && exponent ≤ 15 then positionalDigits ds power
      else scientificDigits ds power

/-- Without an exponent, however large or small. -/
def positional : Binary64 → String
  | .nan => "NaN"
  | .infinite negative => signed negative "inf".toList
  | .finite negative m e =>
    let (digits, power) := shortest m e
    signed negative (positionalDigits (Nat.toDigits 10 digits) power)

end BoardCompiler.Binary64
