/-
# BoardCompiler.Main — the program

The operations of `FileStore` on the files of the machine, and the program that
runs its arguments on them.
-/
import BoardCompiler.CommandLine

set_option autoImplicit false

open BoardCompiler

namespace BoardCompiler.Machine

/-- What an error of the machine means. -/
def fileError : IO.Error → FileError
  | .noFileOrDirectory _ _ _ => .notFound
  | .alreadyExists _ _ _ => .alreadyThere
  | .inappropriateType _ 20 _ => .notDirectory
  | .inappropriateType _ 21 _ => .isDirectory
  | e => .other (toString e)

/-- Work with a file, and what went wrong with it. -/
def attempt {α : Type} (x : IO α) : ExceptT FileError IO α :=
  ExceptT.mk do
    try
      return .ok (← x)
    catch e => return .error (fileError e)

/-- Whether work with a file succeeds. -/
def succeeds {α : Type} (x : IO α) : IO Bool := do
  try
    let _ ← x
    return true
  catch _ => return false

def canOpen (path : Path) : IO Bool := succeeds (IO.FS.Handle.mk path.text .read)

/-- Files can be read; directories can only be opened. -/
def canRead (path : Path) : IO Bool :=
  succeeds do
    let handle ← IO.FS.Handle.mk path.text .read
    handle.read 1

instance : FileStore IO where
  isFile := canRead
  isDirectory path := return (← canOpen path) && !(← canRead path)
  isThere := canOpen
  read path := attempt (IO.FS.readBinFile path.text)
  write path content := attempt (IO.FS.writeBinFile path.text content)
  makeDirectory path := attempt (IO.FS.createDir path.text)

end BoardCompiler.Machine

def main (arguments : List String) : IO UInt32 := do
  let working ← IO.FS.realPath "."
  let ending ← CommandLine.run arguments ⟨toString working⟩
  for entry in ending.log do
    IO.eprintln entry.line
  IO.print ending.output
  IO.eprint ending.errors
  return ending.code.toUInt32
