/-
# BoardCompiler.Files.Store — what a program does with files

`FileStore m` are the operations on files that a monad offers. Each of them
happens or ends in a `FileError`. `FileStore.readText` and `makeDirectories` are
built from them.
-/
import BoardCompiler.Path

namespace BoardCompiler

set_option autoImplicit false

inductive FileError where
  | notFound
  | alreadyThere
  | notDirectory
  | isDirectory
  | nameTooLong
  /-- The path holds a character that no file name may hold. -/
  | nulInPath
  /-- The content is no text. -/
  | notText
  /-- There is no directory to start from. -/
  | noParent
  | other (message : String)
  deriving DecidableEq, Repr

namespace FileError

def message : FileError → String
  | notFound => "No such file or directory (os error 2)"
  | alreadyThere => "File exists (os error 17)"
  | notDirectory => "Not a directory (os error 20)"
  | isDirectory => "Is a directory (os error 21)"
  | nameTooLong => "File name too long (os error 36)"
  | nulInPath => "file name contained an unexpected NUL byte"
  | notText => "stream did not contain valid UTF-8"
  | noParent => "failed to create whole tree"
  | other message => message

end FileError

class FileStore (m : Type → Type) where
  isFile : Path → m Bool
  isDirectory : Path → m Bool
  isThere : Path → m Bool
  /-- The content of a file. -/
  read : Path → ExceptT FileError m ByteArray
  /-- Give a file this content; it need not exist, but its directory has to. -/
  write : Path → ByteArray → ExceptT FileError m Unit
  /-- Make a directory inside one that exists. -/
  makeDirectory : Path → ExceptT FileError m Unit

namespace FileStore

variable {m : Type → Type} [Monad m] [FileStore m]

/-- The content of a file that holds text. -/
def readText (path : Path) : ExceptT FileError m String := do
  let content ← read path
  match String.fromUTF8? content with
  | some text => return text
  | none => throw .notText

def writeText (path : Path) (text : String) : ExceptT FileError m Unit :=
  write path text.toUTF8

/-- Make a directory; it does no harm if it is there. -/
def ensureDirectory (path : Path) : ExceptT FileError m Unit :=
  ExceptT.mk do
    match ← (makeDirectory path : ExceptT FileError m Unit).run with
    | .ok () => return .ok ()
    | .error e => if ← isDirectory path then return .ok () else return .error e

/-- Make a directory and those that it lies in. A directory is made after the one
around it only where the attempt without it has failed. -/
def makeDirectories (path : Path) : ExceptT FileError m Unit :=
  if path.text.isEmpty then pure ()
  else ExceptT.mk do
    match ← (ensureDirectory path : ExceptT FileError m Unit).run with
    | .ok () => return .ok ()
    | .error .notFound =>
      match _h : path.parent? with
      | none => return .error .noParent
      | some parent =>
        match ← (makeDirectories parent).run with
        | .ok () => (ensureDirectory path).run
        | .error e => return .error e
    | .error e => return .error e
termination_by path.text.length
decreasing_by exact Path.length_parent?_lt _h

end FileStore

end BoardCompiler
