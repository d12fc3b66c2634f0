/-
# BoardCompiler.Command — what the program can be asked to do

`Invocation.run` carries out one request in a working directory: it looks for the
manifest of the project around it, chooses the log filter, and does what the
command says. The answer has the lines for the standard output, the log entries
that the filter keeps, and the error if there is one.
-/
import BoardCompiler.Project
import BoardCompiler.Report

namespace BoardCompiler

set_option autoImplicit false

inductive Command where
  | init (name : String)
  | check (files : List Path) (noReferences : Bool)
  | list (files : List Path)
  | compile (files : List Path) (output : Option Path) (noReferences : Bool)
  | types
  deriving DecidableEq, Repr

structure Invocation where
  /-- How often more log entries are asked for. -/
  verbose : Nat
  quiet : Bool
  command : Command
  deriving DecidableEq, Repr

/-- What a request leads to. -/
structure Execution where
  output : List String
  log : List Log.Entry
  error : Option CommandError

variable {m : Type → Type} [Monad m] [FileStore m]

namespace Command

/-- Where a compiled board goes: where it is asked for, else where the manifest says,
else to the usual place in the working directory. -/
def outputPath (working : Path) (manifest : Option (Manifest × Path)) : Option Path → Path
  | some path => path
  | none =>
    match manifest with
    | some (manifest, directory) => manifest.outputPath directory
    | none => working.join ⟨Manifest.defaultOutput⟩

/-- The lines that a command prints. -/
def run (working : Path) (manifest : Option (Manifest × Path)) : Command → Job m (List String)
  | .init name => do
    Project.create name
    return Project.createdReport name
  | .check files noReferences => do
    let board ← Project.loadBoard files manifest
    let references := Project.checksReferences noReferences (manifest.map (·.1))
    return (← Project.compile board references).checkReport references
  | .list files => do
    let board ← Project.loadBoard files manifest
    return (← Project.compile board false).listReport
  | .compile files output noReferences => do
    let board ← Project.loadBoard files manifest
    let references := Project.checksReferences noReferences (manifest.map (·.1))
    let path := outputPath working manifest output
    let compiled ← Project.writeBoard board references path
    return ["Compiled " ++ compiled.counts ++ " -> " ++ (path.stripped working).text]
  | .types => return Builtin.parsers.typesReport

end Command

namespace Invocation

/-- The log filter of an invocation. -/
def filter (i : Invocation) (manifest : Option (Manifest × Path)) :
    Except CommandError Log.Filter :=
  (Log.Filter.choose i.verbose i.quiet (manifest.bind fun found => found.1.level)).mapError
    .logLevel

/-- The command after the entry that names the manifest. -/
def perform (i : Invocation) (working : Path) (manifest : Option (Manifest × Path)) :
    Job m (List String) := do
  match manifest with
  | some (manifest, directory) =>
    LoggedT.write .debug ("using manifest for '" ++ manifest.name ++ "' in " ++ directory.text)
  | none => pure ()
  i.command.run working manifest

/-- Carry out a request in a working directory. -/
def run (i : Invocation) (working : Path) : m Execution := do
  match (← (Project.findManifest working : Job m _).run).outcome with
  | .error e => return ⟨[], [], some e⟩
  | .ok manifest =>
    match i.filter manifest with
    | .error e => return ⟨[], [], some e⟩
    | .ok filter =>
      let result ← (i.perform working manifest).run
      let log := result.log.filter fun entry => filter.admits entry.level
      match result.outcome with
      | .ok lines => return ⟨lines, log, none⟩
      | .error e => return ⟨[], log, some e⟩

end Invocation

end BoardCompiler
