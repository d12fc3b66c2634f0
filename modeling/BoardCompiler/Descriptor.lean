/-
# BoardCompiler.Descriptor — structure initializers

A `StructDescriptor` says how one static structure is initialized: its type, an
ordered `InitMap` from member names to values, and a variable name when the
entity's name is not to decide it. Inserting under a name that is present
replaces the value and keeps its position, so names stay unique.
-/
import BoardCompiler.Json.Printer

namespace BoardCompiler

set_option autoImplicit false

mutual

/-- The value a member is initialized with. -/
inductive InitValue where
  | text (value : String)
  | integer (value : Int)
  | bool (value : Bool)
  | nested (members : InitMap)

/-- Member names and their values, in order. -/
structure InitMap where
  entries : List (String × InitValue)

end

instance : Inhabited InitMap := ⟨⟨[]⟩⟩

instance : Inhabited InitValue := ⟨.bool false⟩

mutual

def InitValue.decEq : (a b : InitValue) → Decidable (a = b)
  | .text a, .text b => if h : a = b then isTrue (by rw [h]) else isFalse (by simp [h])
  | .integer a, .integer b => if h : a = b then isTrue (by rw [h]) else isFalse (by simp [h])
  | .bool a, .bool b => if h : a = b then isTrue (by rw [h]) else isFalse (by simp [h])
  | .nested a, .nested b =>
    match InitMap.decEq a b with
    | isTrue h => isTrue (by rw [h])
    | isFalse h => isFalse (by simp [h])
  | .text _, .integer _ | .text _, .bool _ | .text _, .nested _
  | .integer _, .text _ | .integer _, .bool _ | .integer _, .nested _
  | .bool _, .text _ | .bool _, .integer _ | .bool _, .nested _
  | .nested _, .text _ | .nested _, .integer _ | .nested _, .bool _ => isFalse (by simp)

def InitMap.decEq : (a b : InitMap) → Decidable (a = b)
  | ⟨a⟩, ⟨b⟩ =>
    match InitMap.entriesDecEq a b with
    | isTrue h => isTrue (by rw [h])
    | isFalse h => isFalse (by simp [h])

def InitMap.entriesDecEq : (a b : List (String × InitValue)) → Decidable (a = b)
  | [], [] => isTrue rfl
  | [], _ :: _ | _ :: _, [] => isFalse (by simp)
  | (k, v) :: xs, (l, w) :: ys =>
    if hk : k = l then
      match InitValue.decEq v w, InitMap.entriesDecEq xs ys with
      | isTrue hv, isTrue hx => isTrue (by rw [hk, hv, hx])
      | isFalse hv, _ => isFalse (by simp [hv])
      | _, isFalse hx => isFalse (by simp [hx])
    else isFalse (by simp [hk])

end

instance : DecidableEq InitValue := InitValue.decEq

instance : DecidableEq InitMap := InitMap.decEq

namespace InitMap

def empty : InitMap := ⟨[]⟩

/-- Entries with `value` under `key`: in its place if `key` is there, else at the end. -/
def insertEntry (key : String) (value : InitValue) :
    List (String × InitValue) → List (String × InitValue)
  | [] => [(key, value)]
  | (k, v) :: rest => if k = key then (k, value) :: rest else (k, v) :: insertEntry key value rest

def insert (m : InitMap) (key : String) (value : InitValue) : InitMap :=
  ⟨insertEntry key value m.entries⟩

/-- The map of pairs inserted in order. -/
def ofList (pairs : List (String × InitValue)) : InitMap :=
  pairs.foldl (fun m pair => m.insert pair.1 pair.2) empty

def get? (m : InitMap) (key : String) : Option InitValue :=
  (m.entries.find? fun entry => entry.1 == key).map (·.2)

def keys (m : InitMap) : List String := m.entries.map (·.1)

def size (m : InitMap) : Nat := m.entries.length

def isEmpty (m : InitMap) : Bool := m.entries.isEmpty

end InitMap

mutual

def InitValue.toJson : InitValue → Json
  | .text s => .string s
  | .integer n => .integer n
  | .bool b => .bool b
  | .nested m => m.toJson

def InitMap.toJson : InitMap → Json
  | ⟨entries⟩ => .object (InitMap.entriesToJson entries)

def InitMap.entriesToJson : List (String × InitValue) → List (String × Json)
  | [] => []
  | (name, value) :: rest => (name, value.toJson) :: InitMap.entriesToJson rest

end

structure StructDescriptor where
  structType : String
  /-- The variable's name, where the entity's name does not decide it. -/
  structVar : Option String
  structInit : InitMap
  deriving DecidableEq

def isIdentifierChar (c : Char) : Bool := c.isAlphanum || c == '_'

/-- The character that stands for `c` in a variable name. -/
def identifierChar (c : Char) : Char := if isIdentifierChar c then c else '_'

/-- A word kept from starting with a digit. -/
def guardDigit (word : List Char) : List Char :=
  match word with
  | c :: _ => if c.isDigit then '_' :: word else word
  | [] => word

/-- A variable name for an entity: its name with every other character than ASCII
letters, digits and `_` turned into `_`, kept from starting with a digit, and
`_cfg` after it. -/
def defaultVarName (entity : String) : String :=
  String.ofList (guardDigit (entity.toList.map identifierChar) ++ ['_', 'c', 'f', 'g'])

namespace StructDescriptor

/-- A descriptor whose variable is named after the entity. -/
def of (structType : String) (structInit : InitMap) : StructDescriptor :=
  ⟨structType, none, structInit⟩

def varName (d : StructDescriptor) (entity : String) : String :=
  d.structVar.getD (defaultVarName entity)

def toJson (d : StructDescriptor) : Json :=
  .object <|
    ("struct_type", .string d.structType) ::
      (d.structVar.toList.map fun var => ("struct_var", .string var)) ++
      [("struct_init", d.structInit.toJson)]

end StructDescriptor

end BoardCompiler
