/-
# BoardCompiler.Manifest — the settings of a board project

A manifest is a TOML document with a table `project`, which names the project, and
optional tables `board`, `check`, `output` and `log`. Other keys mean nothing.
Each table may also be written as an array of its settings in their order. The
first thing in the order of the text that is of the wrong kind is refused; what is
missing is noticed at the end of its table.
-/
import BoardCompiler.Path
import BoardCompiler.Text.Lines
import BoardCompiler.Toml.Document
import BoardCompiler.Toml.Refusal

namespace BoardCompiler

set_option autoImplicit false

structure Manifest where
  name : String
  /-- The chip of the board, for the reader only. -/
  chip : Option String
  /-- Board documents, relative to the directory of the manifest, in order. -/
  files : List String
  /-- Whether the references of devices are checked. -/
  references : Bool
  /-- Where the compiled board goes, relative to the directory of the manifest. -/
  output : String
  /-- The log filter without flags. -/
  level : Option String
  deriving DecidableEq, Repr

inductive ManifestError where
  /-- The text is no TOML document. -/
  | malformed
  | refused (refusal : Toml.Refusal)
  | emptyName

namespace ManifestError

/-- The message without a position. -/
def message : ManifestError → String
  | malformed => "malformed TOML"
  | refused r => r.message
  | emptyName => "project.name must not be empty"

/-- The message with the line of the text that it is about. -/
def report (text : String) : ManifestError → String
  | refused r => r.report text
  | e => e.message

end ManifestError

namespace Manifest

open Toml (Value Refusal Key Span)

abbrev Decoder (α : Type) : Type := Value → Except Refusal α

namespace Decode

variable {α : Type}

def string : Decoder String
  | .string _ s => .ok s
  | v => .error (v.wrong "a string")

def boolean : Decoder Bool
  | .boolean _ b => .ok b
  | v => .error (v.wrong "a boolean")

def strings : Decoder (List String)
  | .array _ items => items.mapM string
  | v => .error (v.wrong "a sequence")

/-- Entries in order, each worked into what the ones before it gave. A refusal
without a stretch is about the value, or its key if the value has none either. -/
def entries (work : α → String → Value → Except Refusal α) :
    α → List (Key × Value) → Except Refusal α
  | a, [] => .ok a
  | a, (key, v) :: rest =>
    match work a key.text v with
    | .error r => .error (r.within (v.span?.or key.span))
    | .ok a => entries work a rest

/-- The item at a position, if the array is that long. -/
def item? (decode : Decoder α) (index : Nat) (items : List Value) : Except Refusal (Option α) :=
  match items[index]? with
  | none => .ok none
  | some v => some <$> decode v

/-- The only setting of a table, or its default where it is missing. -/
def only (decode : Decoder α) (table setting : String) (default : α) : Decoder α
  | .table _ es =>
    let work := fun (a : α) (name : String) (v : Value) =>
      if name = setting then decode v else .ok a
    entries work default es
  | .dateTime _ _ => .ok default
  | .array _ items => (·.getD default) <$> item? decode 0 items
  | v => .error (v.wrong ("struct " ++ table))

end Decode

/-- Something that has to be there and is not, in a table of that stretch. -/
def missing {α : Type} (name : String) (span : Option Span) : Except Refusal α :=
  .error ⟨Found.backquoted "missing field" name, span⟩

def defaultFiles : List String := ["board_peripherals.yaml", "board_devices.yaml"]

def defaultOutput : String := "build/board.json"

/-- The name and the chip of a project. -/
structure Project where
  name : String
  chip : Option String
  deriving DecidableEq, Repr

namespace Project

/-- The settings of the table as far as they have been read. -/
structure Settings where
  name : Option String
  chip : Option String

def Settings.add (p : Settings) (setting : String) (v : Value) : Except Refusal Settings :=
  if setting = "name" then (fun s => ⟨some s, p.chip⟩) <$> Decode.string v
  else if setting = "chip" then (fun s => ⟨p.name, some s⟩) <$> Decode.string v
  else .ok p

def decode : Decoder Project
  | .table span es => do
    let p ← Decode.entries Settings.add ⟨none, none⟩ es
    match p.name with
    | some name => return ⟨name, p.chip⟩
    | none => missing "name" span
  | .dateTime span _ => missing "name" (some span)
  | .array span items => do
    match ← Decode.item? Decode.string 0 items with
    | none => .error ⟨"invalid length 0, expected struct ProjectConfig with 2 elements", span⟩
    | some name => return ⟨name, ← Decode.item? Decode.string 1 items⟩
  | v => .error (v.wrong "struct ProjectConfig")

end Project

/-- The tables of a manifest as far as they have been read. -/
structure Settings where
  project : Option Project
  files : List String
  references : Bool
  output : String
  level : Option String

namespace Settings

/-- The settings of a manifest without any table. -/
def default : Settings := ⟨none, defaultFiles, true, defaultOutput, none⟩

def add (p : Settings) (table : String) (v : Value) : Except Refusal Settings :=
  if table = "project" then
    (fun x => ⟨some x, p.files, p.references, p.output, p.level⟩) <$> Project.decode v
  else if table = "board" then
    (fun x => ⟨p.project, x, p.references, p.output, p.level⟩) <$>
      Decode.only Decode.strings "BoardConfig" "files" defaultFiles v
  else if table = "check" then
    (fun x => ⟨p.project, p.files, x, p.output, p.level⟩) <$>
      Decode.only Decode.boolean "CheckConfig" "references" true v
  else if table = "output" then
    (fun x => ⟨p.project, p.files, p.references, x, p.level⟩) <$>
      Decode.only Decode.string "OutputConfig" "path" defaultOutput v
  else if table = "log" then
    (fun x => ⟨p.project, p.files, p.references, p.output, x⟩) <$>
      Decode.only (fun v => some <$> Decode.string v) "LogConfig" "level" none v
  else .ok p

end Settings

/-- The manifest that a document holds; its name may still be empty. -/
def decode : Decoder Manifest
  | .table span es => do
    let p ← Decode.entries Settings.add .default es
    match p.project with
    | some project =>
      return ⟨project.name, project.chip, p.files, p.references, p.output, p.level⟩
    | none => missing "project" span
  | v => .error (v.wrong "struct BoardManifest")

/-- The manifest of a document. -/
def ofToml (v : Value) : Except ManifestError Manifest :=
  match decode v with
  | .error r => .error (.refused r)
  | .ok m => if m.name.isEmpty then .error .emptyName else .ok m

/-- The manifest of a text. -/
def ofText (text : String) : Except ManifestError Manifest :=
  match Value.ofToml? text with
  | none => .error .malformed
  | some v => ofToml v

/-! ## Paths -/

/-- The board documents of a manifest in a directory. -/
def boardPaths (m : Manifest) (directory : Path) : List Path :=
  m.files.map fun file => directory.join ⟨file⟩

/-- Where the compiled board of a manifest in a directory goes. -/
def outputPath (m : Manifest) (directory : Path) : Path := directory.join ⟨m.output⟩

/-! ## A manifest to start with -/

/-- The text of a new project's manifest, with its name as it is. -/
def template (name : String) : String :=
  Text.unlines
    ["[project]", "name = \"" ++ name ++ "\"", "", "[board]",
     "files = [\"board_peripherals.yaml\", \"board_devices.yaml\"]", "", "[check]",
     "references = true"]

end Manifest

end BoardCompiler
