/-
# BoardCompiler.Found — what was found in place of what was expected

The words in which a message names a value of the wrong kind, for the two file
formats alike.
-/
import BoardCompiler.Binary64.Decimal
import BoardCompiler.Text.Quoted

namespace BoardCompiler

set_option autoImplicit false

inductive Found where
  | null
  | bool (value : Bool)
  | integer (value : Int)
  /-- An integer that no 64-bit word holds. -/
  | wideInteger (value : Int)
  | float (value : Binary64)
  | string (value : String)
  | sequence
  | map

namespace Found

/-- A word between backquotes, after what it is. -/
def backquoted (what word : String) : String := what ++ " \x60" ++ word ++ "\x60"

def text : Found → String
  | null => "unit value"
  | bool true => backquoted "boolean" "true"
  | bool false => backquoted "boolean" "false"
  | integer n => backquoted "integer" (toString n)
  | wideInteger n => backquoted "integer" (toString n) ++ (if n < 0 then " as i128" else " as u128")
  | float x => backquoted "floating point" x.positional
  | string s => "string " ++ Text.quoted s
  | sequence => "sequence"
  | map => "map"

/-- The message that names what was found and what was expected. -/
def instead (found : Found) (expected : String) : String :=
  "invalid type: " ++ found.text ++ ", expected " ++ expected

end Found

end BoardCompiler
