/-
# BoardCompiler.Yaml.Load — YAML text as values

`Value.load` reads a text that holds one document. A text that breaks the grammar
is `malformed`; a document that keeps to it may still be refused: a key given
twice, a scalar that is not what its tag asks for, an integer too wide, nesting
deeper than 128 collections, or aliases followed too often. A `Refusal` says
where: the path to the value and its mark.
-/
import BoardCompiler.Yaml.Node.Grammar
import BoardCompiler.Yaml.Scalar
import BoardCompiler.Yaml.Token.Scan

namespace BoardCompiler.Yaml

set_option autoImplicit false

/-- The way from the root to a value. -/
inductive Path where
  | root
  | item (parent : Path) (index : Nat)
  | entry (parent : Path) (key : String)
  /-- Under a key that is no scalar. -/
  | unknown (parent : Path)
  | aliasOf (parent : Path)

namespace Path

/-- Whether the path is the root itself. -/
def isRoot : Path → Bool
  | root => true
  | _ => false

def text : Path → String
  | root => "."
  | item parent index => parent.text ++ "[" ++ toString index ++ "]"
  | entry parent key => (if parent.isRoot then "" else parent.text ++ ".") ++ key
  | unknown parent => (if parent.isRoot then "" else parent.text ++ ".") ++ "?"
  | aliasOf parent => parent.text

end Path

/-- Why a well-formed document is refused. -/
inductive Cause where
  | duplicateKey (key : Value)
  | wrongType (found : Found) (expected : String)
  | wrongText (text expected : String)
  | unknownField (name : String) (known : List String)
  | duplicateField (name : String)
  | tooDeep
  | tooManyAliases

namespace Cause

def message : Cause → String
  | duplicateKey key =>
    "duplicate entry " ++
      match key with
      | .null => "with null key"
      | .bool b => "with key " ++ "\x60" ++ (if b then "true" else "false") ++ "\x60"
      | .integer n => "with key " ++ toString n
      | .float x => "with key " ++ x.text
      | .string s => "with key " ++ Text.quoted s
      | .sequence _ | .mapping _ | .tagged _ _ => "in YAML map"
  | wrongType found expected => found.instead expected
  | wrongText text expected =>
    "invalid value: string " ++ Text.quoted text ++ ", expected " ++ expected
  | unknownField name known =>
    Found.backquoted "unknown field" name ++ ", expected " ++
      " or ".intercalate (known.map fun k => "\x60" ++ k ++ "\x60")
  | duplicateField name => Found.backquoted "duplicate field" name
  | tooDeep => "recursion limit exceeded"
  | tooManyAliases => "repetition limit exceeded"

end Cause

/-- A cause and, once it is known, where it lies. -/
structure Refusal where
  cause : Cause
  place : Option (Path × Mark)

namespace Refusal

/-- The message with its path in front, unless it is the root, and its position
behind, unless it is the start of the text. -/
def message (r : Refusal) : String :=
  match r.place with
  | none => r.cause.message
  | some (path, mark) =>
    let before := if path.text == "." then "" else path.text ++ ": "
    let after :=
      if mark.line == 0 && mark.column == 0 then ""
      else " at line " ++ toString (mark.line + 1) ++ " column " ++ toString (mark.column + 1)
    before ++ r.cause.message ++ after

end Refusal

inductive LoadError where
  /-- The text is not exactly one document. -/
  | malformed
  | refused (refusal : Refusal)

def LoadError.message : LoadError → String
  | malformed => "malformed YAML"
  | refused r => r.message

/-- A document with the nodes that its aliases refer to. -/
structure Document where
  root : Node
  anchored : List (Nat × Node)
  /-- How often aliases may be followed. -/
  aliasLimit : Nat

namespace Document

def ofRoot (root : Node) : Document := ⟨root, root.anchored, 100 * root.eventCount⟩

/-- The document of a text; a text without one is null. -/
def ofText? (text : String) : Option Document :=
  ((tokens? text).bind document?).map fun root => ofRoot (root.getD (.missing .start))

/-- The node of an anchor's number: the last one that took it. -/
def target? (d : Document) (number : Nat) : Option Node :=
  (d.anchored.reverse.find? fun entry => entry.1 == number).map (·.2)

end Document

/-- Loading counts the aliases that it follows. -/
abbrev Load (α : Type) : Type := StateT Nat (Except Refusal) α

namespace Load

variable {α : Type}

def refuse (cause : Cause) : Load α := throw ⟨cause, none⟩

/-- Give a refusal without a place this one. -/
def located (path : Path) (mark : Mark) (x : Load α) : Load α := fun count =>
  match x count with
  | .ok result => .ok result
  | .error ⟨cause, none⟩ => .error ⟨cause, some (path, mark)⟩
  | .error refusal => .error refusal

/-- The node that an alias stands for, with its path; any other node is itself. -/
def follow (d : Document) (path : Path) : Node → Load (Path × Node)
  | .aliasOf mark number => do
    let count ← get
    if d.aliasLimit < count + 1 then throw ⟨.tooManyAliases, some (.root, .start)⟩
    set (count + 1)
    return (.aliasOf path, (d.target? number).getD (.missing mark))
  | node => return (path, node)

/-- Nesting deeper than the limit is refused where it happens. -/
def tooDeep (mark : Mark) : Load α := throw ⟨.tooDeep, some (.root, mark)⟩

/-- The path of an entry's value. -/
def entryPath (parent : Path) : Node → Path
  | .scalar _ _ _ text => .entry parent (String.ofList text)
  | _ => .unknown parent

/-- The value of a scalar that is what its tag asks for and fits its type. -/
def scalarValue (tag : NodeTag) (plain : Bool) (text : List Char) : Load Value :=
  match Scalar.classify tag plain text with
  | .error (text, expected) => refuse (.wrongText text expected)
  | .ok found =>
    match found with
    | .null => return .null
    | .bool b => return .bool b
    | .integer n => return .integer n
    | .float x => return .float x
    | .string s => return .string s
    | other => refuse (.wrongType other "any YAML value")

/-- Refuse a node where `expected` should be. -/
def wrongNode (expected : String) : Node → Load α
  | .scalar _ p plain text =>
    match Scalar.classify p.tag plain text with
    | .error (text, wanted) => refuse (.wrongText text wanted)
    | .ok found => refuse (.wrongType found expected)
  | .mapping _ _ _ => refuse (.wrongType .map expected)
  | _ => refuse (.wrongType .sequence expected)

/-- Entries in order; a key that is there already is refused. -/
def entriesWith (read : Path → Node → Load Value) (path : Path) :
    List (Node × Node) → List (Value × Value) → Load (List (Value × Value))
  | [], done => return done
  | (k, v) :: rest, done => do
    let key ← read path k
    if done.any fun entry => entry.1.same key then refuse (.duplicateKey key)
    let value ← read (entryPath path k) v
    entriesWith read path rest (done ++ [(key, value)])

/-- Items in order. -/
def itemsWith {α : Type} (read : Path → Node → Load α) (path : Path) :
    List Node → Nat → Load (List α)
  | [], _ => return []
  | item :: rest, index => do
    let value ← read (.item path index) item
    let values ← itemsWith read path rest (index + 1)
    return value :: values

/-- A tagged value, or the value itself. -/
def withTag (tag : NodeTag) (value : Value) : Value :=
  match tag with
  | .own text => .tagged (.ofText text) value
  | _ => value

/-- The value of a node that may hold `depth` collections inside one another. -/
def value (d : Document) : (depth : Nat) → Path → Node → Load Value
  | 0, path, node => do
    let (path, node) ← follow d path node
    match node with
    | .scalar mark p plain text =>
      located path mark do return withTag p.tag (← scalarValue p.tag plain text)
    | .sequence mark _ _ | .mapping mark _ _ => tooDeep mark
    | .aliasOf _ _ => return .null
  | depth + 1, path, node => do
    let (path, node) ← follow d path node
    match node with
    | .scalar mark p plain text =>
      located path mark do return withTag p.tag (← scalarValue p.tag plain text)
    | .sequence mark p items =>
      located path mark do
        return withTag p.tag (.sequence (← itemsWith (value d depth) path items 0))
    | .mapping mark p entries =>
      located path mark do
        return withTag p.tag (.mapping (← entriesWith (value d depth) path entries []))
    | .aliasOf _ _ => return .null

/-- How many collections may stand inside one another. -/
def depthLimit : Nat := 128

/-- What loading a document gives. -/
def onText {α : Type} (read : Document → Load α) (text : String) : Except LoadError α :=
  match Document.ofText? text with
  | none => .error .malformed
  | some d =>
    match (read d).run 0 with
    | .ok (a, _) => .ok a
    | .error refusal => .error (.refused refusal)

end Load

/-- The value of the one document of a text. -/
def Value.load (text : String) : Except LoadError Value :=
  Load.onText (fun d => Load.value d Load.depthLimit .root d.root) text

end BoardCompiler.Yaml
