/-
# BoardCompiler.Project — the files of a board project

A project is a directory with a manifest. `findManifest` looks for the manifest of
a directory in the directory itself and in those around it; the nearest one
decides. `loadBoard` reads board documents one after another, `writeBoard`
compiles a board into a file, and `createProject` makes a project to start with.
-/
import BoardCompiler.Builtin
import BoardCompiler.CommandError
import BoardCompiler.Compile
import BoardCompiler.Json.Printer

namespace BoardCompiler

set_option autoImplicit false

variable {m : Type → Type} [Monad m] [FileStore m]

/-- A command's work with files. -/
abbrev Job (m : Type → Type) (α : Type) : Type := LoggedT CommandError m α

namespace Job

variable {α : Type}

/-- Work with one file, which an error names. -/
def onFile (action : FileAction) (path : Path) (x : ExceptT FileError m α) : Job m α :=
  LoggedT.ofExceptT (.file action path) x

end Job

namespace Project

open Job (onFile)

def manifestName : Path := ⟨"boardc.toml"⟩

/-- The manifest of the first directory that has one, with that directory. -/
def firstManifest : List Path → Job m (Option (Manifest × Path))
  | [] => return none
  | directory :: rest => do
    let path := directory.join manifestName
    if ← LoggedT.lift (FileStore.isFile path) then
      let text ← onFile .read path (FileStore.readText path)
      match Manifest.ofText text with
      | .ok manifest => return some (manifest, directory)
      | .error e => LoggedT.fail (.manifest path text e)
    else firstManifest rest

/-- The nearest manifest in a directory and those around it. -/
def findManifest (start : Path) : Job m (Option (Manifest × Path)) :=
  firstManifest start.ancestors

/-! ## Boards -/

/-- The board of one file. -/
def loadFile (path : Path) : Job m Board := do
  let text ← onFile .read path (FileStore.readText path)
  let board ← LoggedT.ofLogged (.ofExcept ((Board.ofYaml text).mapError (.board path)))
  LoggedT.write .info
    ("loaded " ++ path.text ++ ": " ++ toString board.peripherals.length ++ " peripheral(s), " ++
      toString board.devices.length ++ " device(s)")
  return board

/-- The boards of files, one after another. -/
def loadFiles : List Path → Job m Board
  | [] => return .empty
  | path :: rest => do
    let board ← loadFile path
    return board.extend (← loadFiles rest)

/-- The files of a board: those that are given, else those of the manifest. -/
def boardPaths (files : List Path) (manifest : Option (Manifest × Path)) :
    Except CommandError (List Path) :=
  if files.isEmpty then
    match manifest with
    | some (manifest, directory) => .ok (manifest.boardPaths directory)
    | none => .error .noBoardFiles
  else .ok files

def loadBoard (files : List Path) (manifest : Option (Manifest × Path)) : Job m Board := do
  loadFiles (← LoggedT.ofLogged (.ofExcept (boardPaths files manifest)))

/-- Whether references are checked: a flag against it decides, then the manifest. -/
def checksReferences (noReferences : Bool) (manifest : Option Manifest) : Bool :=
  !noReferences && (manifest.map Manifest.references).getD true

/-- Compile a board with the built-in types. -/
def compile (board : Board) (references : Bool) : Job m CompiledBoard :=
  LoggedT.ofLogged ((board.compile Builtin.parsers (.ofReferences references)).mapError .entity)

/-- The text of a compiled board. -/
def boardText (compiled : CompiledBoard) : String := compiled.toJson.pretty ++ "\n"

/-- Compile a board into a file, in directories that are made where they are missing. -/
def writeBoard (board : Board) (references : Bool) (output : Path) : Job m CompiledBoard := do
  let compiled ← compile board references
  match output.parent? with
  | some parent =>
    if !parent.text.isEmpty then onFile .create parent (FileStore.makeDirectories parent)
  | none => pure ()
  onFile .write output (FileStore.writeText output (boardText compiled))
  LoggedT.write .info ("wrote " ++ output.text)
  return compiled

/-! ## New projects -/

def peripheralsName : Path := ⟨"board_peripherals.yaml"⟩

def devicesName : Path := ⟨"board_devices.yaml"⟩

def ignoredName : Path := ⟨".gitignore"⟩

def peripheralsTemplate : String :=
  Text.unlines
    ["peripherals:", "  - name: gpio-0", "    type: gpio", "    config:", "      pin: 0",
     "      mode: input"]

def devicesTemplate : String :=
  Text.unlines
    ["devices:", "  - name: button", "    type: gpio_ctrl", "    peripherals: [gpio-0]",
     "    config:", "      active_level: 0"]

/-- The files of a new project. -/
def scaffold (name : String) : List (Path × String) :=
  [(manifestName, Manifest.template name), (peripheralsName, peripheralsTemplate),
   (devicesName, devicesTemplate), (ignoredName, "build/\n")]

/-- Write files into a directory. -/
def writeFiles (directory : Path) : List (Path × String) → Job m Unit
  | [] => pure ()
  | (name, text) :: rest => do
    onFile .write name (FileStore.writeText (directory.join name) text)
    writeFiles directory rest

/-- Make a project in the directory of its name, which must not be there yet. -/
def create (name : String) : Job m Unit := do
  let directory : Path := ⟨name⟩
  if ← LoggedT.lift (FileStore.isThere directory) then
    LoggedT.fail (.projectExists directory)
  else
    onFile .create directory (FileStore.makeDirectories directory)
    writeFiles directory (scaffold name)

/-- What is said about a new project. -/
def createdReport (name : String) : List String :=
  ("Created board project '" ++ name ++ "'") ::
    [manifestName, peripheralsName, devicesName].map fun file =>
      "  " ++ name ++ "/" ++ file.text

end Project

end BoardCompiler
