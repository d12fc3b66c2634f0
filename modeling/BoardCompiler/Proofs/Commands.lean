/-
# BoardCompiler.Proofs.Commands — how a request to check a board ends

A run of the program reads its arguments, looks for a manifest, chooses the log
filter, and then does what the command says. `Checks` are the runs that get as far as
a loaded board and are to check it; what they put out is decided by what the board
compiles to (`run_of_checks`): the report, or nothing but an error.
-/
import BoardCompiler.CommandLine
import BoardCompiler.Proofs.Jobs

namespace BoardCompiler

set_option autoImplicit false

variable {σ : Type} [FileStore (StateM σ)]

theorem Command.endsFrom_check (working : Path) (manifest : Option (Manifest × Path))
    (files : List Path) (noReferences : Bool) (s : σ) :
    ((Command.check files noReferences).run working manifest :
        Job (StateM σ) (List String)).endsFrom s =
      match (Project.loadBoard files manifest : Job (StateM σ) Board).endsFrom s with
      | (.error e, s') => (.error e, s')
      | (.ok board, s') =>
        let references := Project.checksReferences noReferences (manifest.map (·.1))
        match (board.compile Builtin.parsers (.ofReferences references)).outcome with
        | .error e => (.error (.entity e), s')
        | .ok out => (.ok (out.checkReport references), s') := by
  rw [Command.run, LoggedT.endsFrom_bind]
  rcases (Project.loadBoard files manifest : Job (StateM σ) Board).endsFrom s with
    ⟨e | board, s'⟩
  · rfl
  · simp only [Project.compile, LoggedT.endsFrom_bind, LoggedT.endsFrom_ofLogged,
      Logged.outcome_mapError]
    cases (board.compile Builtin.parsers (.ofReferences
      (Project.checksReferences noReferences (manifest.map (·.1))))).outcome with
    | error e => rfl
    | ok out => rfl

/-- The entry that names the manifest has no say in how the command ends. -/
theorem Invocation.endsFrom_perform (i : Invocation) (working : Path)
    (manifest : Option (Manifest × Path)) (s : σ) :
    (i.perform working manifest : Job (StateM σ) (List String)).endsFrom s =
      (i.command.run working manifest : Job (StateM σ) (List String)).endsFrom s := by
  cases manifest with
  | none => rfl
  | some found =>
      rw [perform, LoggedT.endsFrom_bind, LoggedT.write, LoggedT.endsFrom_ofLogged]
      rfl

/-- Once the manifest is found and the filter chosen, the command decides. -/
theorem Invocation.run_of_found {i : Invocation} {working : Path}
    {manifest : Option (Manifest × Path)} {filter : Log.Filter} {s s₁ : σ}
    (found : (Project.findManifest working : Job (StateM σ) _).endsFrom s = (.ok manifest, s₁))
    (filtered : i.filter manifest = .ok filter) :
    ∃ log, (i.run working : StateM σ Execution).run s =
      match (i.command.run working manifest : Job (StateM σ) (List String)).endsFrom s₁ with
      | (.ok lines, s') => (⟨lines, log, none⟩, s')
      | (.error e, s') => (⟨[], log, some e⟩, s') := by
  rw [← endsFrom_perform]
  rcases searched : (Project.findManifest working : Job (StateM σ) _) s with ⟨⟨_, result⟩, s'⟩
  rw [LoggedT.endsFrom, LoggedT.run, searched] at found
  cases found
  rcases performed : (i.perform working manifest : Job (StateM σ) (List String)) s' with
    ⟨⟨entries, result⟩, s''⟩
  refine ⟨entries.filter fun entry => filter.admits entry.level, ?_⟩
  rw [LoggedT.endsFrom, LoggedT.run, performed]
  simp only [Invocation.run, StateT.run, bind, StateT.bind, LoggedT.run, searched, filtered,
    performed]
  cases result with
  | error e => rfl
  | ok lines => rfl

namespace CommandLine

/-- A run that loads a board to check it, with or without its references, and the state
that it gets to. -/
inductive Checks (arguments : List String) (working : Path) (s : σ) : Board → Bool → σ → Prop
  | intro {i : Invocation} {files : List Path} {noReferences : Bool}
      {manifest : Option (Manifest × Path)} {filter : Log.Filter} {board : Board} {s₁ s₂ : σ}
      (read : CommandLine.read arguments = .ok i)
      (command : i.command = .check files noReferences)
      (found : (Project.findManifest working : Job (StateM σ) _).endsFrom s = (.ok manifest, s₁))
      (filtered : i.filter manifest = .ok filter)
      (loaded : (Project.loadBoard files manifest : Job (StateM σ) Board).endsFrom s₁ =
        (.ok board, s₂)) :
      Checks arguments working s board
        (Project.checksReferences noReferences (manifest.map (·.1))) s₂

theorem run_of_checks {arguments : List String} {working : Path} {s s' : σ} {board : Board}
    {references : Bool} (checks : Checks arguments working s board references s') :
    ∃ log, (CommandLine.run arguments working : StateM σ Ending).run s =
      match (board.compile Builtin.parsers (.ofReferences references)).outcome with
      | .ok out => (⟨0, Text.unlines (out.checkReport references), log, ""⟩, s')
      | .error e => (⟨1, "", log, "error: " ++ (CommandError.entity e).message ++ "\n"⟩, s') := by
  obtain @⟨i, files, noReferences, manifest, filter, board, s₁, s₂, read, command, found,
    filtered, loaded⟩ := checks
  obtain ⟨log, ran⟩ := Invocation.run_of_found found filtered
  rw [command, Command.endsFrom_check, loaded] at ran
  refine ⟨log, ?_⟩
  have answered : (CommandLine.run arguments working : StateM σ Ending).run s =
      (.ofExecution ((i.run working : StateM σ Execution).run s).1,
        ((i.run working : StateM σ Execution).run s).2) := by
    rw [CommandLine.run, read]
    rfl
  rw [answered, ran]
  dsimp only
  cases (board.compile Builtin.parsers (.ofReferences
    (Project.checksReferences noReferences (manifest.map (·.1))))).outcome with
  | error e => rfl
  | ok out => rfl

end CommandLine

end BoardCompiler
