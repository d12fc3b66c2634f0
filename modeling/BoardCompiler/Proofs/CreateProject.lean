/-
# BoardCompiler.Proofs.CreateProject — what a new project may overwrite

A project asks once whether its directory is there, then makes directories and writes.
Between the two, what its name leads to can change: the directories made for a name
that goes up again can make it lead to a directory that was there all along, and the
empty name, which leads nowhere, is the working directory once a file is named below it.
These are the only names under which a file is overwritten, and only by one of the
project's own files (`create_overwrites_only`).
-/
import BoardCompiler.Proofs.Files.Directories
import BoardCompiler.Proofs.Files.Join
import BoardCompiler.Proofs.Jobs

namespace BoardCompiler

set_option autoImplicit false

namespace Disk

variable {d d' d'' : Disk} {directory : Path} {files : List (Path × String)}

/-- What the store says is there is what the disk of the state has. -/
structure Truthful {σ : Type} (disk : σ → Disk) (store : FileStore (StateM σ)) : Prop where
  isThere : ∀ path s, (store.isThere path s).1 = true ↔ ∃ node, (disk s).find? path = .ok node
  unchanged : ∀ path s, disk (store.isThere path s).2 = disk s

theorem truthful_disk : Truthful id (inferInstance : FileStore (StateM Disk)) where
  isThere path d := by
    cases found : d.find? path <;> simp [FileStore.isThere, found]
  unchanged _ _ := rfl

/-- Some of the files of a directory were written, and nothing else changed. -/
structure Writes (directory : Path) (files : List (Path × String)) (d d' : Disk) : Prop where
  keeps : Keeps d d'
  places : ∀ place, d'.kind? place = d.kind? place ∨
    ∃ file ∈ files, d'.leadsTo (directory.join file.1) = .ok place ∧
      d'.kind? place = some (.file file.2.toUTF8)

theorem Writes.refl (directory : Path) (files : List (Path × String)) (d : Disk) :
    Writes directory files d d := ⟨.refl d, fun _ => .inl rfl⟩

/-- The first file is written, then some of the others. -/
theorem Writes.cons {file : Path × String}
    (written : d.write (directory.join file.1) file.2.toUTF8 = .ok d')
    (others : Writes directory files d' d'') : Writes directory (file :: files) d d'' := by
  obtain ⟨here, leads, -, -, kinds⟩ := kind?_of_write written
  refine ⟨(keeps_of_write written).trans others.keeps, fun place => ?_⟩
  rcases others.places place with same | ⟨other, member, later⟩
  · by_cases first : place = here
    · subst first
      have stays := others.keeps.leadsTo ((keeps_of_write written).leadsTo leads)
      exact .inr ⟨file, by simp, stays, by rw [same, kinds, if_pos rfl]⟩
    · exact .inl (by rw [same, kinds, if_neg first])
  · exact .inr ⟨other, List.mem_cons_of_mem file member, later⟩

end Disk

namespace Project

open Job (onFile)
open Disk (Atomic Truthful Writes)

variable {σ : Type} {disk : σ → Disk} [store : FileStore (StateM σ)]

theorem writes_of_writeFiles (atomic : Atomic disk store) (directory : Path)
    (files : List (Path × String)) (s : σ) :
    Writes directory files (disk s)
      (disk ((writeFiles (m := StateM σ) directory files).endsFrom s).2) := by
  induction files generalizing s with
  | nil => exact .refl directory [] (disk s)
  | cons file rest ih =>
      obtain ⟨name, text⟩ := file
      have does := atomic.write (directory.join name) text.toUTF8 s
      rw [writeFiles, LoggedT.endsFrom_bind, endsFrom_onFile, FileStore.writeText]
      rcases wrote : (store.write (directory.join name) text.toUTF8).run s with ⟨cause | u, s'⟩
      · rw [wrote] at does
        simp only at does
        show Writes directory ((name, text) :: rest) (disk s) (disk s')
        rw [does]
        exact .refl directory _ (disk s)
      · rw [wrote] at does
        exact .cons does (ih s')

theorem endsFrom_create (name : String) (s : σ) :
    (create (m := StateM σ) name).endsFrom s =
      match store.isThere ⟨name⟩ s with
      | (true, s') => (.error (.projectExists ⟨name⟩), s')
      | (false, s') => (onFile .create ⟨name⟩ (FileStore.makeDirectories ⟨name⟩) >>= fun _ =>
          writeFiles ⟨name⟩ (scaffold name)).endsFrom s' := by
  rw [create, LoggedT.endsFrom_bind, LoggedT.endsFrom_lift]
  rcases store.isThere ⟨name⟩ s with ⟨_ | _, s'⟩ <;> rfl

/-- The names of a new project's files. -/
theorem scaffold_names {name : String} {file : Path × String} (member : file ∈ scaffold name) :
    file.1.isAbsolute = false ∧
      ∃ piece, Disk.pieces file.1 = [piece] ∧ piece ≠ "." ∧ piece ≠ ".." := by
  have names : file.1 ∈ [manifestName, peripheralsName, devicesName, ignoredName] :=
    List.mem_map_of_mem (f := Prod.fst) member
  simp only [List.mem_cons, List.not_mem_nil, or_false] at names
  rcases names with same | same | same | same <;> rw [same]
  · exact ⟨by decide, "boardc.toml", by decide, by decide⟩
  · exact ⟨by decide, "board_peripherals.yaml", by decide, by decide⟩
  · exact ⟨by decide, "board_devices.yaml", by decide, by decide⟩
  · exact ⟨by decide, ".gitignore", by decide, by decide⟩

/-- A file that was there is the file it was, unless the project's name is empty or goes
up, and one of the project's own files has taken its place. -/
theorem create_overwrites_only (atomic : Atomic disk store) (truthful : Truthful disk store)
    {name : String} {s s' : σ} {outcome : Except CommandError Unit}
    (ran : (create (m := StateM σ) name).endsFrom s = (outcome, s')) {place : Disk.Location}
    {content : ByteArray} (stands : (disk s).kind? place = some (.file content)) :
    (disk s').kind? place = some (.file content) ∨
      (name = "" ∨ ".." ∈ (disk s).followed ⟨name⟩) ∧
        ∃ file ∈ scaffold name, (disk s').leadsTo ((⟨name⟩ : Path).join file.1) = .ok place ∧
          (disk s').kind? place = some (.file file.2.toUTF8) := by
  have same := truthful.unchanged ⟨name⟩ s
  rw [endsFrom_create] at ran
  rcases looked : store.isThere ⟨name⟩ s with ⟨_ | _, s₁⟩
  · rw [looked] at ran same
    have grows := atomic.makeDirectories ⟨name⟩ s₁
    simp only [LoggedT.endsFrom_bind, endsFrom_onFile] at ran
    rcases made : (FileStore.makeDirectories ⟨name⟩ : Disk.Act σ).run s₁ with ⟨cause | u, s₂⟩
    · rw [made] at ran grows
      cases ran
      exact .inl ((grows.file_iff place content).mpr (same ▸ stands))
    · rw [made] at ran grows
      have writes := writes_of_writeFiles atomic ⟨name⟩ (scaffold name) s₂
      have kept := (grows.file_iff place content).mpr (same ▸ stands)
      have working := writes.keeps.working.trans grows.working
      simp only [Except.mapError] at ran
      rw [ran] at writes working
      rw [same] at working
      rcases writes.places place with unchanged | ⟨file, member, leads, taken⟩
      · exact .inl (unchanged.trans kept)
      · refine .inr ⟨?_, file, member, leads, taken⟩
        by_contra plain
        rw [not_or] at plain
        obtain ⟨relative, piece, single, dots⟩ := scaffold_names member
        -- the file's directory was there before, so the project would have been refused
        obtain ⟨reached, directory⟩ :=
          Disk.leadsTo_of_join plain.1 relative single dots plain.2 working leads stands
        obtain ⟨entries, found⟩ := Disk.find?_of_directory reached directory
        have there := (truthful.isThere ⟨name⟩ s).mpr ⟨_, found⟩
        rw [looked] at there
        cases there
  · rw [looked] at ran same
    cases ran
    exact .inl (same ▸ stands)

/-- A project with an empty manifest. -/
def oldProject : Disk := ⟨[("old", .directory [("boardc.toml", .file ByteArray.empty)])], []⟩

theorem oldProject_beside_demo :
    ((create (m := StateM Disk) "demo").endsFrom oldProject).2.kind? ["old", "boardc.toml"] =
      some (.file ByteArray.empty) := by
  have stands : (id oldProject).kind? ["old", "boardc.toml"] = some (.file ByteArray.empty) := rfl
  have ran : (create (m := StateM Disk) "demo").endsFrom oldProject =
      (((create (m := StateM Disk) "demo").endsFrom oldProject).1,
        ((create (m := StateM Disk) "demo").endsFrom oldProject).2) := rfl
  have plain : ¬ ("demo" = "" ∨ ".." ∈ oldProject.followed ⟨"demo"⟩) := by decide
  rcases create_overwrites_only Disk.atomic_disk Disk.truthful_disk ran stands with kept | ⟨odd, -⟩
  · exact kept
  · exact absurd odd plain

/-! ## A directory that is overwritten -/

/-- The disk once the name `new/../old` leads somewhere: to the old project. -/
def oldAndNew : Disk := ⟨oldProject.entries ++ [("new", .directory [])], []⟩

theorem makeDirectories_old :
    (FileStore.makeDirectories ⟨"new/../old"⟩ : Disk.Act Disk).run oldProject =
      (.ok (), oldAndNew) := by
  have new : (FileStore.makeDirectories ⟨"new"⟩ : Disk.Act Disk).run oldProject =
      (.ok (), oldAndNew) := by
    have made : (FileStore.ensureDirectory ⟨"new"⟩ : Disk.Act Disk).run oldProject =
        (.ok (), oldAndNew) := rfl
    rw [Disk.run_makeDirectories (by decide), made]
  have up : (FileStore.makeDirectories ⟨"new/.."⟩ : Disk.Act Disk).run oldProject =
      (.ok (), oldAndNew) :=
    Disk.run_makeDirectories_of_parent (by decide) rfl rfl new
  exact Disk.run_makeDirectories_of_parent (by decide) rfl rfl up

theorem endsFrom_writeFiles_of_write {directory name : Path} {text : String} {d d' : Disk}
    (written : d.write (directory.join name) text.toUTF8 = .ok d') (rest : List (Path × String)) :
    (writeFiles (m := StateM Disk) directory ((name, text) :: rest)).endsFrom d =
      (writeFiles (m := StateM Disk) directory rest).endsFrom d' := by
  have ran : (FileStore.writeText (directory.join name) text : Disk.Act Disk).run d =
      (.ok (), d') := by
    show Disk.change (·.write (directory.join name) text.toUTF8) d = _
    simp only [Disk.change, written]
  rw [writeFiles, LoggedT.endsFrom_bind, endsFrom_onFile, ran]
  rfl

theorem scaffold_texts {name : String} {file : Path × String} (member : file ∈ scaffold name) :
    file.2.toUTF8 ≠ ByteArray.empty := by
  intro empty
  have size : file.2.utf8ByteSize = 0 := congrArg ByteArray.size empty
  simp only [scaffold, List.mem_cons, List.not_mem_nil, or_false] at member
  rcases member with rfl | rfl | rfl | rfl
  · simp [Manifest.template, Text.unlines] at size
  · simp [peripheralsTemplate, Text.unlines] at size
  · simp [devicesTemplate, Text.unlines] at size
  · simp at size

/-- A project may be overwritten by another whose name leads to it only later. -/
theorem oldProject_overwritten :
    ¬ ∀ (name : String) (d : Disk) (place : Disk.Location) (content : ByteArray),
      d.kind? place = some (.file content) →
        ((create (m := StateM Disk) name).endsFrom d).2.kind? place = some (.file content) := by
  intro keeps
  have kept := keeps "new/../old" oldProject ["old", "boardc.toml"] ByteArray.empty rfl
  have ran : (create (m := StateM Disk) "new/../old").endsFrom oldProject =
      (writeFiles (m := StateM Disk) ⟨"new/../old"⟩ (scaffold "new/../old")).endsFrom
        oldAndNew := by
    rw [endsFrom_create]
    show (onFile .create ⟨"new/../old"⟩ (FileStore.makeDirectories ⟨"new/../old"⟩) >>= fun _ =>
      writeFiles ⟨"new/../old"⟩ (scaffold "new/../old")).endsFrom oldProject = _
    rw [LoggedT.endsFrom_bind, endsFrom_onFile, makeDirectories_old]
    rfl
  have leads : oldAndNew.leadsTo (Path.join ⟨"new/../old"⟩ manifestName) =
      .ok ["old", "boardc.toml"] := rfl
  have free : oldAndNew.kind? ["old", "boardc.toml"] ≠ some .directory := nofun
  have written : ∃ d, oldAndNew.write (Path.join ⟨"new/../old"⟩ manifestName)
      (Manifest.template "new/../old").toUTF8 = .ok d :=
    ⟨_, Disk.write_ok_iff.mpr ⟨_, leads, by decide, free, rfl⟩⟩
  obtain ⟨d, written⟩ := written
  obtain ⟨place, leads', -, -, kinds⟩ := Disk.kind?_of_write written
  cases leads.symm.trans leads'
  rw [ran, scaffold, endsFrom_writeFiles_of_write written] at kept
  have writes := writes_of_writeFiles Disk.atomic_disk ⟨"new/../old"⟩
    (scaffold "new/../old").tail d
  rcases writes.places ["old", "boardc.toml"] with same | ⟨file, member, -, taken⟩
  · have manifest : (manifestName, Manifest.template "new/../old") ∈ scaffold "new/../old" :=
      List.mem_cons_self
    have first : d.kind? ["old", "boardc.toml"] =
        some (.file (Manifest.template "new/../old").toUTF8) := by rw [kinds, if_pos rfl]
    have equal := (first.symm.trans same.symm).trans kept
    exact scaffold_texts manifest (by simpa using equal)
  · have equal := taken.symm.trans kept
    exact scaffold_texts (List.mem_of_mem_tail member) (by simpa using equal)

end Project

end BoardCompiler
