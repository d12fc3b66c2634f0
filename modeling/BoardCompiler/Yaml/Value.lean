/-
# BoardCompiler.Yaml.Value — loaded YAML values

A `Value` is what a document means once scalars are resolved and aliases are
expanded. A mapping is the list of its entries in the order of the text, its
keys pairwise different (`Value.same`). `untagged` looks through tags; the
lookups by text do not: only an untagged string key is found by its text.
-/
import BoardCompiler.Binary64.Decimal
import BoardCompiler.Text.Quoted

namespace BoardCompiler.Yaml

set_option autoImplicit false

/-- A tag without its leading `!`. The tag `!` alone keeps its one character. -/
structure Tag where
  name : String
  deriving DecidableEq, Repr

namespace Tag

def ofText (text : String) : Tag :=
  match text.toList with
  | '!' :: c :: rest => ⟨String.ofList (c :: rest)⟩
  | _ => ⟨text⟩

/-- The tag as it is written, with its leading `!`. -/
def text (t : Tag) : String := "!" ++ t.name

end Tag

/-- Integers range over `-2^63 ≤ n < 2^64`. -/
inductive Value where
  | null
  | bool (value : Bool)
  | integer (value : Int)
  | float (value : Binary64)
  | string (value : String)
  | sequence (items : List Value)
  | mapping (entries : List (Value × Value))
  | tagged (tag : Tag) (value : Value)
  deriving Repr, Inhabited

namespace Value

/-- The value under all its tags. -/
def untagged : Value → Value
  | .tagged _ v => v.untagged
  | v => v

def asString? (v : Value) : Option String :=
  match v.untagged with
  | .string s => some s
  | _ => none

def asBool? (v : Value) : Option Bool :=
  match v.untagged with
  | .bool b => some b
  | _ => none

def isMapping (v : Value) : Bool :=
  match v.untagged with
  | .mapping _ => true
  | _ => false

/-- Whether the value is the untagged string `s`. -/
def isText (s : String) : Value → Bool
  | .string t => t == s
  | _ => false

/-- The value that a mapping holds under a string key. -/
def lookup (key : String) (entries : List (Value × Value)) : Option Value :=
  (entries.find? fun entry => entry.1.isText key).map (·.2)

mutual

/-- Equality of values as keys: floats by number, mappings whatever the order of
their entries, the rest by shape. -/
def same : Value → Value → Bool
  | .null, .null => true
  | .bool a, .bool b => a == b
  | .integer a, .integer b => a == b
  | .float a, .float b => a.same b
  | .string a, .string b => a == b
  | .sequence xs, .sequence ys => sameItems xs ys
  | .mapping xs, .mapping ys => xs.length == ys.length && entriesWithin xs ys
  | .tagged s v, .tagged t w => s == t && same v w
  | _, _ => false

def sameItems : List Value → List Value → Bool
  | [], [] => true
  | x :: xs, y :: ys => same x y && sameItems xs ys
  | _, _ => false

/-- Whether every entry has its equal in a second list. -/
def entriesWithin : List (Value × Value) → List (Value × Value) → Bool
  | [], _ => true
  | (k, v) :: xs, ys => ys.any (fun entry => same k entry.1 && same v entry.2) && entriesWithin xs ys

end

/-- Give a key a value: in its place if an equal key is there, else at the end. -/
def insertEntry (key value : Value) : List (Value × Value) → List (Value × Value)
  | [] => [(key, value)]
  | (k, v) :: rest =>
    if same k key then (k, value) :: rest else (k, v) :: insertEntry key value rest

/-- How a message shows a value. -/
def describe : Value → String
  | .null => "null"
  | .bool true => "true"
  | .bool false => "false"
  | .integer n => toString n
  | .float x => x.text
  | .string s => Text.quoted s
  | .sequence _ => "<sequence>"
  | .mapping _ => "<mapping>"
  | .tagged t v => t.text ++ " " ++ v.describe

end Value

end BoardCompiler.Yaml
