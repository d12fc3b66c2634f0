/-
# BoardCompiler.Board — the entities of a board

A board document is a mapping with two optional sections, `peripherals` and
`devices`, each a list of entities. Every entity is a mapping with a name. The
shape of the document is checked first, then the peripherals, then the devices,
in whatever order the sections are written.
-/
import BoardCompiler.RawConfig
import BoardCompiler.Yaml.Load

namespace BoardCompiler

set_option autoImplicit false

open Yaml (Value Node Load)

/-- One declared peripheral or device. -/
structure Entity where
  name : String
  raw : RawConfig

namespace Entity

/-- The type tag, or the word for its absence. -/
def kind (e : Entity) : String := e.raw.kind

/-- The name shown for an entity without one. -/
def unnamed : String := "<unnamed>"

def ofValue (value : Value) : Except EntityError Entity :=
  let raw : RawConfig := ⟨value⟩
  if !value.isMapping then .error ⟨unnamed, raw.kind, .malformed "entry must be a mapping"⟩
  else
    match raw.name? with
    | some name => .ok ⟨name, raw⟩
    | none => .error ⟨unnamed, raw.kind, .malformed "missing 'name'"⟩

end Entity

/-- The entities of a board in the order they are declared. -/
structure Board where
  peripherals : List Entity
  devices : List Entity

inductive BoardError where
  | yaml (error : Yaml.LoadError)
  | entity (error : EntityError)

def BoardError.message : BoardError → String
  | yaml e => e.message
  | entity e => e.message

/-- The entries of a document's sections; a section that is absent or null has none. -/
structure BoardSections where
  peripherals : Option (List Value)
  devices : Option (List Value)

namespace BoardSections

def names : List String := ["peripherals", "devices"]

/-- Whether a node is there: not null, and not an empty or null plain scalar. -/
def isPresent : Node → Load Bool
  | .scalar _ p plain text =>
    if !plain then return true
    else
      match p.tag with
      | .none => return !(text.isEmpty || Yaml.Scalar.isNullWord (String.ofList text))
      | .null =>
        if Yaml.Scalar.isNullWord (String.ofList text) then return false
        else Load.refuse (.wrongText (String.ofList text) "null")
      | _ => return true
  | _ => return true

/-- The items of a section. -/
def section? (d : Yaml.Document) (depth : Nat) (path : Yaml.Path) (node : Node) :
    Load (Option (List Value)) := do
  let (path, node) ← Load.follow d path node
  if !(← isPresent node) then return none
  match node with
  | .sequence mark _ items =>
    Load.located path mark do
      match depth with
      | 0 => Load.tooDeep mark
      | depth + 1 => return some (← Load.itemsWith (Load.value d depth) path items 0)
  | .scalar mark _ plain text =>
    Load.located path mark do
      if plain && text.isEmpty then return some [] else Load.wrongNode "a sequence" node
  | .mapping mark _ _ | .aliasOf mark _ => Load.located path mark (Load.wrongNode "a sequence" node)

/-- The name that a key spells, whatever kind of scalar it is. -/
def fieldName (d : Yaml.Document) (path : Yaml.Path) (node : Node) : Load String := do
  let (path, node) ← Load.follow d path node
  match node with
  | .scalar mark _ _ text =>
    let name := String.ofList text
    if names.contains name then return name
    else Load.located path mark (Load.refuse (.unknownField name names))
  | .sequence mark _ _ | .mapping mark _ _ | .aliasOf mark _ =>
    Load.located path mark (Load.wrongNode "field identifier" node)

/-- Entries of the document, with the sections seen before them. -/
def readEntries (d : Yaml.Document) (depth : Nat) (path : Yaml.Path) :
    List (Node × Node) → (seen : List (String × Option (List Value))) →
      Load (List (String × Option (List Value)))
  | [], seen => return seen
  | (k, v) :: rest, seen => do
    let name ← fieldName d path k
    if seen.any (·.1 == name) then Load.refuse (.duplicateField name)
    let items ← section? d depth (Load.entryPath path k) v
    readEntries d depth path rest (seen ++ [(name, items)])

/-- The sections of a document; a null document has none. -/
def read (d : Yaml.Document) : Load BoardSections := do
  let empty : BoardSections := ⟨none, none⟩
  if !(← isPresent d.root) then return empty
  match d.root with
  | .mapping mark _ entries =>
    Load.located .root mark do
      let seen ← readEntries d (Load.depthLimit - 1) .root entries []
      let items := fun (name : String) => ((seen.find? (·.1 == name)).map (·.2)).join
      return ⟨items "peripherals", items "devices"⟩
  | .scalar mark _ plain text =>
    Load.located .root mark do
      if plain && text.isEmpty then return empty else Load.wrongNode "struct BoardFile" d.root
  | .sequence mark _ _ | .aliasOf mark _ =>
    Load.located .root mark (Load.wrongNode "struct BoardFile" d.root)

end BoardSections

namespace Board

def empty : Board := ⟨[], []⟩

/-- The board of a document's sections. -/
def ofSections (sections : BoardSections) : Except EntityError Board := do
  let peripherals ← (sections.peripherals.getD []).mapM Entity.ofValue
  let devices ← (sections.devices.getD []).mapM Entity.ofValue
  return ⟨peripherals, devices⟩

/-- The board of one document. -/
def ofYaml (text : String) : Except BoardError Board :=
  match Yaml.Load.onText BoardSections.read text with
  | .error e => .error (.yaml e)
  | .ok sections => (ofSections sections).mapError .entity

/-- The entities of one board, then those of another. -/
def extend (b c : Board) : Board :=
  ⟨b.peripherals ++ c.peripherals, b.devices ++ c.devices⟩

/-- The documents one after another; the first that is refused decides. -/
def ofDocuments (texts : List String) : Except BoardError Board := do
  let boards ← texts.mapM ofYaml
  return boards.foldl extend empty

end Board

end BoardCompiler
