/-
# BoardCompiler.Json.Printer — JSON trees as text

`compact` writes no blank outside strings. `pretty` puts every item and member
on a line of its own, two spaces deeper than its container; empty containers
stay closed on one line.
-/
import BoardCompiler.Json.Basic

namespace BoardCompiler.Json

set_option autoImplicit false

mutual

def compactText : Json → List Char
  | .null => nullText
  | .bool b => boolText b
  | .integer n => integerText n
  | .string s => stringText s
  | .array items => '[' :: compactItems items ++ [']']
  | .object members => '\x7b' :: compactMembers members ++ ['\x7d']

def compactItems : List Json → List Char
  | [] => []
  | [item] => compactText item
  | item :: next :: rest => compactText item ++ ',' :: compactItems (next :: rest)

def compactMembers : List (String × Json) → List Char
  | [] => []
  | [(name, value)] => stringText name ++ ':' :: compactText value
  | (name, value) :: next :: rest =>
    stringText name ++ ':' :: compactText value ++ ',' :: compactMembers (next :: rest)

end

/-- A line break and the indentation of a depth. -/
def newline (depth : Nat) : List Char :=
  '\n' :: List.replicate (2 * depth) ' '

mutual

/-- The lines of a tree whose container stands at `depth`. -/
def prettyText (depth : Nat) : Json → List Char
  | .null => nullText
  | .bool b => boolText b
  | .integer n => integerText n
  | .string s => stringText s
  | .array [] => ['[', ']']
  | .array (item :: items) =>
    '[' :: prettyItems (depth + 1) (item :: items) ++ newline depth ++ [']']
  | .object [] => ['\x7b', '\x7d']
  | .object (member :: members) =>
    '\x7b' :: prettyMembers (depth + 1) (member :: members) ++ newline depth ++ ['\x7d']

def prettyItems (depth : Nat) : List Json → List Char
  | [] => []
  | [item] => newline depth ++ prettyText depth item
  | item :: next :: rest =>
    newline depth ++ prettyText depth item ++ ',' :: prettyItems depth (next :: rest)

def prettyMembers (depth : Nat) : List (String × Json) → List Char
  | [] => []
  | [(name, value)] => newline depth ++ stringText name ++ ':' :: ' ' :: prettyText depth value
  | (name, value) :: next :: rest =>
    newline depth ++ stringText name ++ ':' :: ' ' :: prettyText depth value ++
      ',' :: prettyMembers depth (next :: rest)

end

/-- The tree on one line. -/
def compact (j : Json) : String := String.ofList (compactText j)

/-- The tree on indented lines, without a final newline. -/
def pretty (j : Json) : String := String.ofList (prettyText 0 j)

end BoardCompiler.Json
