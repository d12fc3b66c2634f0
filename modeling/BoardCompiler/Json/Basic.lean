/-
# BoardCompiler.Json.Basic — JSON trees

The JSON values that compiled boards are written in: numbers are integers, and
an object is a list of members in the order they are written. `compact` writes a
tree without blanks (`Json.Compact`), `pretty` on indented lines
(`Json.Pretty`), and `parse?` reads either back (`Json.Reader`).
-/

namespace BoardCompiler

set_option autoImplicit false

inductive Json where
  | null
  | bool (value : Bool)
  | integer (value : Int)
  | string (value : String)
  | array (items : List Json)
  | object (members : List (String × Json))
  deriving Repr, Inhabited

namespace Json

/-- The first member of that name. -/
def get? (name : String) : Json → Option Json
  | .object members => (members.find? fun member => member.1 == name).map (·.2)
  | _ => none

/-- The hexadecimal digit of a number below 16. -/
def hexDigit (n : Nat) : Char :=
  (['0', '1', '2', '3', '4', '5', '6', '7', '8', '9', 'a', 'b', 'c', 'd', 'e', 'f'] : List Char).getD
    n '0'

/-- The spelling of a character inside a string: quote, backslash and controls
are escaped, the rest stands as it is. -/
def escapeChar (c : Char) : List Char :=
  if c = '"' then ['\\', '"']
  else if c = '\\' then ['\\', '\\']
  else if c = '\n' then ['\\', 'n']
  else if c = '\r' then ['\\', 'r']
  else if c = '\t' then ['\\', 't']
  else if c.toNat = 0x08 then ['\\', 'b']
  else if c.toNat = 0x0C then ['\\', 'f']
  else if c.toNat < 0x20 then
    ['\\', 'u', '0', '0', hexDigit (c.toNat / 16), hexDigit (c.toNat % 16)]
  else [c]

def stringText (s : String) : List Char :=
  '"' :: s.toList.flatMap escapeChar ++ ['"']

def boolText : Bool → List Char
  | true => ['t', 'r', 'u', 'e']
  | false => ['f', 'a', 'l', 's', 'e']

def nullText : List Char := ['n', 'u', 'l', 'l']

def integerText (n : Int) : List Char :=
  (toString n).toList

end Json

end BoardCompiler
