/-
# BoardCompiler.Files.Disk — a file system as a value

A `Disk` is a tree of directories and files. A place is the list of names on the
way from the root. Paths are followed piece by piece from the root or from the
working directory, each piece from a directory that is there. `Disk` states make
a `FileStore`, whose operations change at most the place that the path leads to.

* `node?`, `insert` — what stands at a place, and to put something there.
* `locate` — where a path leads to; nothing need stand there.
* `files` — all files with their places.
-/
import BoardCompiler.Files.Store

namespace BoardCompiler

set_option autoImplicit false

namespace Disk

/-- The names on the way from the root. -/
abbrev Location := List String

inductive Node where
  | file (content : ByteArray)
  | directory (entries : List (String × Node))

abbrev Entries := List (String × Node)

namespace Node

def isDirectory : Node → Bool
  | .file _ => false
  | .directory _ => true

def lookup (name : String) (entries : Entries) : Option Node :=
  (entries.find? fun entry => entry.1 == name).map (·.2)

/-- The entries with `node` under a name: in its place if the name is there, else
at the end. -/
def put (name : String) (node : Node) : Entries → Entries
  | [] => [(name, node)]
  | (n, old) :: rest => if n = name then (n, node) :: rest else (n, old) :: put name node rest

/-- What stands at a place below a node. -/
def below? : Location → Node → Option Node
  | [], node => some node
  | _ :: _, .file _ => none
  | name :: rest, .directory entries =>
    match lookup name entries with
    | none => none
    | some node => below? rest node

/-- The entries with a node at a place, if the directory of the place is there. -/
def insertBelow (node : Node) : Location → Entries → Entries
  | [], entries => entries
  | [name], entries => put name node entries
  | name :: next :: rest, entries =>
    match lookup name entries with
    | some (.directory inner) =>
      put name (.directory (insertBelow node (next :: rest) inner)) entries
    | _ => entries

mutual

/-- The files in a node, with their places seen from it. -/
def files : Node → List (Location × ByteArray)
  | .file content => [([], content)]
  | .directory entries => filesOf entries

def filesOf : List (String × Node) → List (Location × ByteArray)
  | [] => []
  | (name, node) :: rest =>
    (node.files.map fun file => (name :: file.1, file.2)) ++ filesOf rest

end

end Node

end Disk

structure Disk where
  /-- What stands in the root. -/
  entries : Disk.Entries
  working : Disk.Location

namespace Disk

/-- What stands at a place; the root is always a directory. -/
def node? (d : Disk) (place : Location) : Option Node := Node.below? place (.directory d.entries)

/-- Put a node in the place of whatever stands there. Its directory has to be there. -/
def insert (d : Disk) (place : Location) (node : Node) : Disk :=
  ⟨Node.insertBelow node place d.entries, d.working⟩

def files (d : Disk) : List (Location × ByteArray) := Node.filesOf d.entries

/-- How many bytes a name may have. -/
def nameLimit : Nat := 255

/-- How many bytes a path may have. -/
def pathLimit : Nat := 4095

/-- How far a path has been followed. -/
structure Spot where
  /-- The names from here to the root. -/
  names : List String
  /-- What stands in the directories around, the nearest first. -/
  around : List Entries
  node : Option Node

namespace Spot

def root (d : Disk) : Spot := ⟨[], [], some (.directory d.entries)⟩

def place (s : Spot) : Location := s.names.reverse

/-- One piece of a path further. -/
def step (s : Spot) (piece : String) : Except FileError Spot :=
  match s.node with
  | none => .error .notFound
  | some (.file _) => .error .notDirectory
  | some (.directory entries) =>
    if piece = "." then .ok s
    else if piece = ".." then
      match s.names, s.around with
      | _ :: names, above :: around => .ok ⟨names, around, some (.directory above)⟩
      | _, _ => .ok s
    else if nameLimit < piece.utf8ByteSize then .error .nameTooLong
    else .ok ⟨piece :: s.names, entries :: s.around, Node.lookup piece entries⟩

end Spot

/-- The pieces of a path; none of them is empty. -/
def pieces (path : Path) : List String :=
  ((Path.split path.text.toList).filter fun piece => !piece.isEmpty).map String.ofList

/-- The place that a path leads to, with what stands there. -/
def locate (d : Disk) (path : Path) : Except FileError Spot :=
  if path.text.isEmpty then .error .notFound
  else if path.text.toList.any fun c => c.toNat = 0 then .error .nulInPath
  else if pathLimit < path.text.utf8ByteSize then .error .nameTooLong
  else ((if path.isAbsolute then [] else d.working) ++ pieces path).foldlM Spot.step (.root d)

/-- Whether a path asks for a directory by a slash at its end. -/
def asksDirectory (path : Path) : Bool := path.text.toList.getLast? = some '/'

/-- What a path leads to. -/
def find? (d : Disk) (path : Path) : Except FileError Node := do
  match (← d.locate path).node with
  | none => .error .notFound
  | some (.file content) =>
    if asksDirectory path then .error .notDirectory else .ok (.file content)
  | some (.directory entries) => .ok (.directory entries)

def read (d : Disk) (path : Path) : Except FileError ByteArray := do
  match ← d.find? path with
  | .file content => .ok content
  | .directory _ => .error .isDirectory

def write (d : Disk) (path : Path) (content : ByteArray) : Except FileError Disk := do
  let spot ← d.locate path
  if asksDirectory path || spot.node.any Node.isDirectory then .error .isDirectory
  else .ok (d.insert spot.place (.file content))

def makeDirectory (d : Disk) (path : Path) : Except FileError Disk := do
  let spot ← d.locate path
  if spot.node.isSome then .error .alreadyThere
  else .ok (d.insert spot.place (.directory []))

/-- A change of the disk that may fail and then changes nothing. -/
def change (f : Disk → Except FileError Disk) : ExceptT FileError (StateM Disk) Unit :=
  fun d =>
    match f d with
    | .ok d' => (.ok (), d')
    | .error e => (.error e, d)

instance : FileStore (StateM Disk) where
  isFile path := fun d => (match d.find? path with | .ok (.file _) => true | _ => false, d)
  isDirectory path := fun d =>
    (match d.find? path with | .ok (.directory _) => true | _ => false, d)
  isThere path := fun d => (match d.find? path with | .ok _ => true | .error _ => false, d)
  read path := fun d => (d.read path, d)
  write path content := change (·.write path content)
  makeDirectory path := change (·.makeDirectory path)

end Disk

end BoardCompiler
