/-
# BoardCompiler.Yaml.Node — the tree of a YAML document

A `Node` is a document as it is written: scalars are text, aliases refer to
anchors by number. An anchor's number is how many different anchor names stand
before its node; a number taken again refers to the later node. Tags are kept as
far as they matter: the four scalar types, tags of one `!`, and all others.
-/
import BoardCompiler.Yaml.Token

namespace BoardCompiler.Yaml

set_option autoImplicit false

/-- What the tag of a node asks for. -/
inductive NodeTag where
  | none
  | bool
  | integer
  | float
  | null
  /-- A tag of one `!`, by its text after it, or `!` itself. -/
  | own (text : String)
  /-- A tag of one `!` whose bytes are no text. -/
  | unreadable
  | other
  deriving DecidableEq, Repr

namespace NodeTag

/-- What the scalar types are called in full. -/
def coreTags : List (String × NodeTag) :=
  [("tag:yaml.org,2002:bool", .bool), ("tag:yaml.org,2002:int", .integer),
   ("tag:yaml.org,2002:float", .float), ("tag:yaml.org,2002:null", .null)]

/-- The tag that bytes spell. -/
def ofBytes (bytes : List UInt8) : NodeTag :=
  match bytes, String.fromUTF8? ⟨bytes.toArray⟩ with
  | b :: _, text =>
    if b = UInt8.ofNat '!'.toNat then
      match text with
      | some text => .own (if bytes.length = 1 then text else String.ofList (text.toList.drop 1))
      | Option.none => .unreadable
    else ((coreTags.find? fun entry => text = some entry.1).map (·.2)).getD .other
  | [], _ => .other

end NodeTag

/-- What may stand in front of a node. -/
structure Properties where
  anchor : Option Nat
  tag : NodeTag

def Properties.none : Properties := ⟨Option.none, .none⟩

inductive Node where
  | aliasOf (mark : Mark) (number : Nat)
  | scalar (mark : Mark) (properties : Properties) (plain : Bool) (text : List Char)
  | sequence (mark : Mark) (properties : Properties) (items : List Node)
  | mapping (mark : Mark) (properties : Properties) (entries : List (Node × Node))
  deriving Inhabited

namespace Node

/-- A node that is not written. -/
def missing (mark : Mark) : Node := .scalar mark .none true []

mutual

/-- The nodes with an anchor, in the order of the text. -/
def anchored : Node → List (Nat × Node)
  | .aliasOf _ _ => []
  | .scalar mark p plain text =>
    match p.anchor with
    | some n => [(n, .scalar mark p plain text)]
    | none => []
  | .sequence mark p items =>
    match p.anchor with
    | some n => (n, .sequence mark p items) :: anchoredItems items
    | none => anchoredItems items
  | .mapping mark p entries =>
    match p.anchor with
    | some n => (n, .mapping mark p entries) :: anchoredEntries entries
    | none => anchoredEntries entries

def anchoredItems : List Node → List (Nat × Node)
  | [] => []
  | item :: rest => anchored item ++ anchoredItems rest

def anchoredEntries : List (Node × Node) → List (Nat × Node)
  | [] => []
  | (key, value) :: rest => anchored key ++ anchored value ++ anchoredEntries rest

end

mutual

/-- How many scalars, aliases and collection ends the tree has. -/
def eventCount : Node → Nat
  | .aliasOf _ _ => 1
  | .scalar _ _ _ _ => 1
  | .sequence _ _ items => 2 + eventCountItems items
  | .mapping _ _ entries => 2 + eventCountEntries entries

def eventCountItems : List Node → Nat
  | [] => 0
  | item :: rest => eventCount item + eventCountItems rest

def eventCountEntries : List (Node × Node) → Nat
  | [] => 0
  | (key, value) :: rest => eventCount key + eventCount value + eventCountEntries rest

end

end Node

end BoardCompiler.Yaml
