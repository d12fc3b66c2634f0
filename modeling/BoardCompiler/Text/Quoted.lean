/-
# BoardCompiler.Text.Quoted — texts as messages quote them

A message shows a text between double quotes. Quote, backslash, newline,
carriage return, tab and NUL have escapes of their own; other controls and
every unprintable character (`Text.Unprintable`) are spelled `\u{hex}`; the
rest stands as it is.
-/
import BoardCompiler.Text.Unprintable

namespace BoardCompiler.Text

set_option autoImplicit false

/-- Lower-case hexadecimal digits of a number, without leading zeros. -/
def hex (n : Nat) : List Char := Nat.toDigits 16 n

/-- The spelling of one character between quotes. -/
def quoteChar (c : Char) : List Char :=
  if c = '"' then ['\\', '"']
  else if c = '\\' then ['\\', '\\']
  else if c = '\n' then ['\\', 'n']
  else if c = '\r' then ['\\', 'r']
  else if c = '\t' then ['\\', 't']
  else if c.toNat = 0 then ['\\', '0']
  else if c.toNat < 0x20 || c.toNat = 0x7F || (0x80 ≤ c.toNat && isUnprintable c) then
    ['\\', 'u', '\x7b'] ++ hex c.toNat ++ ['\x7d']
  else [c]

/-- A text between double quotes. -/
def quoted (s : String) : String :=
  String.ofList ('"' :: s.toList.flatMap quoteChar ++ ['"'])

end BoardCompiler.Text
