/-
# BoardCompiler.Proofs.WriteBoard — a board is written whole or not at all

Whatever a store lets through, compiling a board into a file leaves every other file as
it was (`writeBoard_all_or_nothing`). A board that is refused leaves the disk alone; a
failure later on leaves at most some of the directories that the file was to lie in;
and a success puts the board's text where the output path leads, and nothing elsewhere
but those directories.
-/
import BoardCompiler.Proofs.Compile.References
import BoardCompiler.Proofs.Files.Directories
import BoardCompiler.Proofs.Jobs

namespace BoardCompiler.Project

set_option autoImplicit false

open Job (onFile)
open Disk (Atomic Grows Receives)

variable {σ : Type} {disk : σ → Disk} [store : FileStore (StateM σ)]

/-- The directories that a file lies in. -/
def makeAround (output : Path) : Job (StateM σ) Unit :=
  match output.parent? with
  | some parent =>
    if parent.text.isEmpty then pure ()
    else onFile .create parent (FileStore.makeDirectories parent)
  | none => pure ()

/-- The board's text in a file whose directory is there. -/
def writeText (compiled : CompiledBoard) (output : Path) : Job (StateM σ) CompiledBoard := do
  onFile .write output (FileStore.writeText output (boardText compiled))
  LoggedT.write .info ("wrote " ++ output.text)
  return compiled

theorem endsFrom_writeText (compiled : CompiledBoard) (output : Path) (s : σ) :
    (writeText compiled output).endsFrom s =
      match (store.write output (boardText compiled).toUTF8).run s with
      | (.error e, s') => (.error (.file .write output e), s')
      | (.ok (), s') => (.ok compiled, s') := by
  rw [writeText, LoggedT.endsFrom_bind, endsFrom_onFile, FileStore.writeText]
  rcases (store.write output (boardText compiled).toUTF8).run s with ⟨e | u, s'⟩ <;> rfl

theorem endsFrom_writeBoard (board : Board) (references : Bool) (output : Path) (s : σ) :
    (writeBoard (m := StateM σ) board references output).endsFrom s =
      match (board.compile Builtin.parsers (.ofReferences references)).outcome with
      | .error cause => (.error (.entity cause), s)
      | .ok compiled => (makeAround output >>= fun _ => writeText compiled output).endsFrom s := by
  rw [writeBoard, compile, LoggedT.endsFrom_bind, LoggedT.endsFrom_ofLogged,
    Logged.outcome_mapError]
  cases (board.compile Builtin.parsers (.ofReferences references)).outcome with
  | error cause => rfl
  | ok compiled =>
      simp only [Except.mapError, makeAround]
      cases output.parent? with
      | none => rfl
      | some parent => cases empty : parent.text.isEmpty <;> simp [empty] <;> rfl

/-- Making the directories that a file lies in makes no more than those. -/
theorem grows_of_makeAround (atomic : Atomic disk store) (output : Path) (s : σ) :
    Grows output.ancestors.tail (disk s) (disk ((makeAround output).endsFrom s).2) := by
  rw [makeAround]
  cases found : output.parent? with
  | none => exact .refl _ _
  | some parent =>
      by_cases empty : parent.text.isEmpty = true
      · simp only [empty, if_true]
        exact .refl _ _
      · simp only [empty]
        rw [Path.ancestors_tail_of_parent? found]
        exact atomic.makeDirectories parent s

theorem error_of_makeAround {output : Path} {s s' : σ} {error : CommandError}
    (fails : (makeAround output).endsFrom s = (.error error, s')) :
    ∃ path cause, error = .file .create path cause := by
  rw [makeAround] at fails
  split at fails
  · next parent found =>
    split_ifs at fails with empty
    · cases fails
    · rw [endsFrom_onFile] at fails
      cases ran : ((FileStore.makeDirectories parent : Disk.Act σ).run s).1 with
      | error cause =>
          rw [ran] at fails
          cases fails
          exact ⟨parent, cause, rfl⟩
      | ok u =>
          rw [ran] at fails
          cases fails
  · cases fails

/-- A board that is not written leaves every file as it was, and the whole disk if it is
not compiled. A board that is written is the text of what it compiles to, and stands
alone: besides, there may be new directories where the paths around the output lead. -/
theorem writeBoard_all_or_nothing (atomic : Atomic disk store) (board : Board) (references : Bool)
    (output : Path) (s : σ) :
    match (writeBoard (m := StateM σ) board references output).endsFrom s with
    | (.error error, s') =>
      (∀ place content, (disk s').kind? place = some (.file content) ↔
        (disk s).kind? place = some (.file content)) ∧
      ∀ cause, (error = .entity cause ↔
        (board.compile Builtin.parsers (if references then .check else .dryRun)).outcome =
          .error cause) ∧
        (error = .entity cause → disk s' = disk s)
    | (.ok compiled, s') =>
      (board.compile Builtin.parsers (if references then .check else .dryRun)).outcome =
        .ok compiled ∧
      Receives output.ancestors.tail output (compiled.toJson.pretty ++ "\n").toUTF8 (disk s)
        (disk s') := by
  have mode : Mode.ofReferences references = if references then .check else .dryRun := rfl
  rw [endsFrom_writeBoard, mode]
  cases (board.compile Builtin.parsers (if references then .check else .dryRun)).outcome with
  | error cause => simp
  | ok compiled =>
      have grows := grows_of_makeAround atomic output s
      simp only [LoggedT.endsFrom_bind]
      rcases made : (makeAround output).endsFrom s with ⟨error | u, s'⟩
      · rw [made] at grows
        obtain ⟨path, cause, rfl⟩ := error_of_makeAround made
        exact ⟨grows.file_iff, by simp⟩
      · rw [made] at grows
        have does := atomic.write output (boardText compiled).toUTF8 s'
        simp only [endsFrom_writeText]
        rcases wrote : (store.write output (boardText compiled).toUTF8).run s' with ⟨cause | u, s''⟩
        · rw [wrote] at does
          simp only at does
          refine ⟨?_, by simp⟩
          rw [does]
          exact grows.file_iff
        · rw [wrote] at does
          exact ⟨rfl, grows.receives does⟩

theorem buttonAndLight_received :
    ∃ compiled d', (writeBoard (m := StateM Disk) Board.buttonAndLight true ⟨"board.json"⟩).endsFrom
        ⟨[], []⟩ = (.ok compiled, d') ∧
      (Board.buttonAndLight.compile Builtin.parsers .check).outcome = .ok compiled ∧
      Receives (Path.ancestors ⟨"board.json"⟩).tail ⟨"board.json"⟩
        (compiled.toJson.pretty ++ "\n").toUTF8 ⟨[], []⟩ d' := by
  have all := writeBoard_all_or_nothing Disk.atomic_disk Board.buttonAndLight true ⟨"board.json"⟩
    ⟨[], []⟩
  have runs : (writeBoard (m := StateM Disk) Board.buttonAndLight true ⟨"board.json"⟩).endsFrom
      ⟨[], []⟩ = (.ok _, _) := rfl
  rw [runs] at all
  exact ⟨_, _, runs, all⟩

end BoardCompiler.Project
