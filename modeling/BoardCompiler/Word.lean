/-
# BoardCompiler.Word — integers that fit a word

The integers that a word of so many bits holds, with and without a sign.
-/

namespace BoardCompiler.Word

set_option autoImplicit false

/-- Two to the number of bits. -/
def bound (bits : Nat) : Int := Int.ofNat (Nat.pow 2 bits)

def isSigned (bits : Nat) (n : Int) : Bool := -bound (bits - 1) ≤ n && n < bound (bits - 1)

def isUnsigned (bits : Nat) (n : Int) : Bool := 0 ≤ n && n < bound bits

end BoardCompiler.Word
