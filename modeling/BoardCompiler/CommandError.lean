/-
# BoardCompiler.CommandError — why a command fails
-/
import BoardCompiler.Board
import BoardCompiler.Files.Store
import BoardCompiler.Manifest

namespace BoardCompiler

set_option autoImplicit false

/-- What a command was doing with a file. -/
inductive FileAction where
  | read
  | parse
  | create
  | write
  deriving DecidableEq, Repr

/-- The action and its file, in front of what went wrong. -/
def FileAction.context (action : FileAction) (path : Path) : String :=
  let verb := match action with
    | .read => "reading"
    | .parse => "parsing"
    | .create => "creating"
    | .write => "writing"
  verb ++ " " ++ path.text ++ ": "

inductive CommandError where
  | file (action : FileAction) (path : Path) (cause : FileError)
  | board (path : Path) (cause : BoardError)
  /-- The manifest of that text. -/
  | manifest (path : Path) (text : String) (cause : ManifestError)
  | entity (cause : EntityError)
  | logLevel (name : String)
  | noBoardFiles
  /-- The directory of a new project. -/
  | projectExists (path : Path)

namespace CommandError

def message : CommandError → String
  | file action path cause => action.context path ++ cause.message
  | board path cause => FileAction.parse.context path ++ cause.message
  | manifest path text cause => FileAction.parse.context path ++ cause.report text
  | entity cause => cause.message
  | logLevel name =>
    "invalid log level '" ++ name ++
      "' in manifest: attempted to convert a string that doesn't match an existing log level"
  | noBoardFiles =>
    "no board files given and no boardc.toml found. Pass files or create a manifest."
  | projectExists path => "directory '" ++ path.text ++ "' already exists"

end CommandError

end BoardCompiler
