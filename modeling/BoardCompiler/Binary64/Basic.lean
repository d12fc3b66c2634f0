/-
# BoardCompiler.Binary64.Basic — binary floating point numbers, exactly

A `Binary64` is a number of the 64-bit binary format as a significand and a
power of two, or one of the two infinities, or not a number. Decimals are read
and written with exact natural arithmetic: `ofDecimal` rounds to the nearest
number and a half to the even significand, `shortest` finds the fewest digits
that read back as the same number.
-/

namespace BoardCompiler

set_option autoImplicit false

/-- `finite negative m e` is `m · 2^e` with its sign; `m < 2^53`, and `2^52 ≤ m`
unless `e` is the least exponent. -/
inductive Binary64 where
  | nan
  | infinite (negative : Bool)
  | finite (negative : Bool) (significand : Nat) (exponent : Int)
  deriving DecidableEq, Repr

namespace Binary64

/-- The exponent of the smallest numbers. -/
def leastExponent : Int := -1074

/-- The exponent of the largest numbers. -/
def greatestExponent : Int := 971

/-- Two to a power, or one for a negative power. -/
def powerOfTwo (e : Int) : Nat := Nat.pow 2 e.toNat

/-- Ten to a power, or one for a negative power. -/
def powerOfTen (e : Int) : Nat := Nat.pow 10 e.toNat

/-- The least significand of a number above the least exponent. -/
def leastSignificand : Nat := powerOfTwo 52

/-- The bound of all significands. -/
def significandBound : Nat := powerOfTwo 53

def zero (negative : Bool) : Binary64 := .finite negative 0 leastExponent

def isZero : Binary64 → Bool
  | .finite _ m _ => m = 0
  | _ => false

/-- Equality of numbers: the two zeros are one, and not a number equals itself. -/
def same (x y : Binary64) : Bool :=
  x = y || (x.isZero && y.isZero)

/-- `num / den` rounded to the nearest integer, a half to the even one. -/
def roundHalfEven (num den : Nat) : Nat :=
  let q := num / den
  let r := num % den
  if 2 * r < den then q
  else if den < 2 * r then q + 1
  else if q % 2 = 0 then q else q + 1

/-- `num / (den · 2^e)` as a fraction of naturals. -/
def scaled (num den : Nat) (e : Int) : Nat × Nat :=
  (num * powerOfTwo (-e), den * powerOfTwo e)

/-- The number nearest to `num / den`. -/
def ofFraction (negative : Bool) (num den : Nat) : Binary64 :=
  if num = 0 then zero negative
  else
    let low : Int := (num.log2 : Int) - (den.log2 : Int) - 53
    let fits (e : Int) : Bool :=
      let (a, b) := scaled num den e
      a / b < significandBound
    let e := max (if fits low then low else low + 1) leastExponent
    let (a, b) := scaled num den e
    let m := roundHalfEven a b
    let (m, e) := if m = significandBound then (leastSignificand, e + 1) else (m, e)
    if greatestExponent < e then .infinite negative else .finite negative m e

/-- How many decimal digits a number has; zero has none. -/
def digitCount (n : Nat) : Nat :=
  if n = 0 then 0 else (Nat.toDigits 10 n).length

/-- The number nearest to `digits · 10^power`. Decimals far outside the range are
settled by their size alone. -/
def ofDecimal (negative : Bool) (digits : Nat) (power : Int) : Binary64 :=
  let size : Int := digitCount digits + power
  if digits = 0 || size < -330 then zero negative
  else if 330 < size then .infinite negative
  else ofFraction negative (digits * powerOfTen power) (powerOfTen (-power))

/-- A positive number as `low ≤ value ≤ high` over one denominator, where the
bounds are half way to its neighbours. They belong to the interval of the
decimals that read back exactly if the significand is even. -/
structure Interval where
  low : Nat
  value : Nat
  high : Nat
  den : Nat
  closed : Bool

def interval (m : Nat) (e : Int) : Interval :=
  let below := if m = leastSignificand && leastExponent < e then 1 else 2
  let up := powerOfTwo (e - 2)
  ⟨(4 * m - below) * up, 4 * m * up, (4 * m + 2) * up, powerOfTwo (2 - e), m % 2 = 0⟩

namespace Interval

/-- Whether `c · 10^p` reads back. -/
def holds (i : Interval) (c : Nat) (p : Int) : Bool :=
  let x := c * powerOfTen p * i.den
  let s := powerOfTen (-p)
  if i.closed then i.low * s ≤ x && x ≤ i.high * s else i.low * s < x && x < i.high * s

/-- The value in units of `10^p`, rounded down, and the fraction it comes from. -/
def grid (i : Interval) (p : Int) : Nat × Nat × Nat :=
  let num := i.value * powerOfTen (-p)
  let den := i.den * powerOfTen p
  (num / den, num, den)

/-- Of the value's two neighbours in units of `10^p`, the nearest that reads back. -/
def neighbour? (i : Interval) (p : Int) : Option Nat :=
  let (c, num, den) := i.grid p
  match i.holds c p, i.holds (c + 1) p with
  | true, true => some (roundHalfEven num den)
  | true, false => some c
  | false, true => some (c + 1)
  | false, false => none

/-- The largest power of ten up to the value, searched downwards from `p`. -/
def magnitude (i : Interval) : Nat → Int → Int
  | 0, p => p
  | fuel + 1, p => if (i.grid p).1 = 0 then i.magnitude fuel (p - 1) else p

/-- The first neighbour that reads back on ever finer grids. -/
def refine (i : Interval) : Nat → Int → Nat × Int
  | 0, p => ((i.grid p).1, p)
  | fuel + 1, p =>
    match i.neighbour? p with
    | some c => (c, p)
    | none => i.refine fuel (p - 1)

end Interval

/-- Move trailing zeros of the digits into the power of ten. -/
def stripZeros : Nat → Nat → Int → Nat × Int
  | 0, digits, power => (digits, power)
  | fuel + 1, digits, power =>
    if digits % 10 = 0 && digits ≠ 0 then stripZeros fuel (digits / 10) (power + 1)
    else (digits, power)

/-- The fewest digits that read back as `m · 2^e`, and their power of ten. -/
def shortest (m : Nat) (e : Int) : Nat × Int :=
  if m = 0 then (0, 0)
  else
    let i := interval m e
    let guess : Int := ((m.log2 : Int) + e) * 30103 / 100000 + 2
    let (digits, power) := i.refine 17 (i.magnitude 6 guess)
    stripZeros 20 digits power

end Binary64

end BoardCompiler
