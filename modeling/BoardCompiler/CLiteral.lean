/-
# BoardCompiler.CLiteral — string literals of C

A string literal stands between double quotes on one line. In it every character stands
for itself, except that a backslash starts an escape: a letter or mark of its own, up to
three octal digits, any number of hexadecimal digits, or the code point of four or eight
hexadecimal digits. `denoted?` reads a text that is one such literal and nothing else, as
the bytes that it denotes when characters are encoded in UTF-8. What C does to a text
before it looks for literals, replacing trigraphs and joining lines, is none of its rules.
-/
import BoardCompiler.Toml.Scalar

namespace BoardCompiler.CLiteral

set_option autoImplicit false

open Toml.Scalar (isHexDigit isOctalDigit natural)

/-- The character of an escape with a letter or mark of its own. -/
def simpleEscape? : Char → Option Char
  | '\'' => some '\''
  | '"' => some '"'
  | '?' => some '?'
  | '\\' => some '\\'
  | 'a' => some (Char.ofNat 0x07)
  | 'b' => some (Char.ofNat 0x08)
  | 'f' => some (Char.ofNat 0x0C)
  | 'n' => some '\n'
  | 'r' => some '\r'
  | 't' => some '\t'
  | 'v' => some (Char.ofNat 0x0B)
  | _ => none

/-- The byte that digits of a base spell. -/
def byte? (base : Nat) (digits : List Char) : Option UInt8 :=
  let n := natural base digits
  if n < 256 then some n.toUInt8 else none

/-- The character that digits name by its code point: none of the basic characters but
three, and no half of a surrogate pair. -/
def named? (digits : List Char) : Option Char :=
  let n := natural 16 digits
  if h : n.isValidChar then
    if 0xA0 ≤ n || n = 0x24 || n = 0x40 || n = 0x60 then some (Char.ofNatAux n h) else none
  else none

/-- The bytes of an escape that starts after a backslash, and what follows it. -/
def escape? : List Char → Option (List UInt8 × List Char)
  | [] => none
  | c :: rest =>
    if isOctalDigit c then
      let digits := ((c :: rest).take 3).takeWhile isOctalDigit
      (byte? 8 digits).map fun b => ([b], (c :: rest).drop digits.length)
    else if c = 'x' then
      let digits := rest.takeWhile isHexDigit
      if digits.isEmpty then none
      else (byte? 16 digits).map fun b => ([b], rest.drop digits.length)
    else if c = 'u' then nameEscape? 4 rest
    else if c = 'U' then nameEscape? 8 rest
    else (simpleEscape? c).map fun d => (String.utf8EncodeChar d, rest)
where
  /-- A code point of exactly `count` digits. -/
  nameEscape? (count : Nat) (text : List Char) : Option (List UInt8 × List Char) :=
    let digits := text.take count
    if digits.length = count && digits.all isHexDigit then
      (named? digits).map fun c => (String.utf8EncodeChar c, text.drop count)
    else none

/-- The bytes up to the closing quote, and what follows it. -/
def body? : (fuel : Nat) → List Char → Option (List UInt8 × List Char)
  | 0, _ => none
  | _ + 1, [] => none
  | fuel + 1, c :: rest =>
    if c = '"' then some ([], rest)
    else if c = '\\' then do
      let (first, rest) ← escape? rest
      let (others, rest) ← body? fuel rest
      return (first ++ others, rest)
    else if c = '\n' || c = '\r' then none
    else do
      let (others, rest) ← body? fuel rest
      return (String.utf8EncodeChar c ++ others, rest)

/-- The bytes that a text denotes, if it is one string literal. -/
def denoted? (text : String) : Option ByteArray :=
  match text.toList with
  | '"' :: rest =>
    match body? (rest.length + 1) rest with
    | some (bytes, []) => some bytes.toByteArray
    | _ => none
  | _ => none

/-- Characters that a literal holds as they are. -/
def isPlain (c : Char) : Bool := c != '"' && c != '\\' && c != '\n' && c != '\r'

end BoardCompiler.CLiteral
