/-
# BoardCompiler.Proofs.Files.Directories — making directories

`Atomic` is what is asked of the operations of a store: each of them does to the disk
what it should or fails and leaves the disk alone, whenever it likes. Making the
directories of a path then adds directories where the path and the paths around it
lead (`Grows`), and changes nothing else, however far it gets
(`Atomic.makeDirectories`).
-/
import BoardCompiler.Proofs.Files.Paths

namespace BoardCompiler

set_option autoImplicit false

namespace Path

theorem ancestors_of_parent? {p q : Path} (parent : p.parent? = some q) :
    p.ancestors = p :: q.ancestors := by
  rw [ancestors]
  split
  · rename_i none
    cases none.symm.trans parent
  · rename_i found
    cases found.symm.trans parent
    rfl

theorem ancestors_tail_of_parent? {p q : Path} (parent : p.parent? = some q) :
    p.ancestors.tail = q.ancestors := by
  rw [ancestors_of_parent? parent, List.tail_cons]

theorem mem_ancestors_self (p : Path) : p ∈ p.ancestors := by
  rw [ancestors]
  exact List.mem_cons_self

end Path

namespace Disk

variable {d d' d'' : Disk} {paths more : List Path}

/-! ## More directories -/

/-- Directories were made where some of the paths lead, and no more. -/
structure Grows (paths : List Path) (d d' : Disk) : Prop where
  working : d'.working = d.working
  places : ∀ place, d'.kind? place = d.kind? place ∨
    d.kind? place = none ∧ d'.kind? place = some .directory ∧
      ∃ path ∈ paths, d'.leadsTo path = .ok place

theorem Grows.refl (paths : List Path) (d : Disk) : Grows paths d d := ⟨rfl, fun _ => .inl rfl⟩

theorem Grows.keeps (grows : Grows paths d d') : Keeps d d' := by
  refine ⟨grows.working, fun place stands => ?_⟩
  rcases grows.places place with same | ⟨-, made, -⟩
  · exact same.trans stands
  · exact made

theorem Grows.trans (first : Grows paths d d') (second : Grows paths d' d'') :
    Grows paths d d'' := by
  refine ⟨second.working.trans first.working, fun place => ?_⟩
  rcases second.places place with same | ⟨free, made, leads⟩
  · rcases first.places place with before | ⟨free, made, path, member, leads⟩
    · exact .inl (same.trans before)
    · exact .inr ⟨free, same.trans made, path, member, second.keeps.leadsTo leads⟩
  · rcases first.places place with before | ⟨-, taken, -⟩
    · exact .inr ⟨before.symm.trans free, made, leads⟩
    · cases taken.symm.trans free

theorem Grows.mono (grows : Grows paths d d') (sub : ∀ path ∈ paths, path ∈ more) :
    Grows more d d' := by
  refine ⟨grows.working, fun place => (grows.places place).imp_right ?_⟩
  rintro ⟨free, made, path, member, leads⟩
  exact ⟨free, made, path, sub path member, leads⟩

/-- The files are those that were there. -/
theorem Grows.file_iff (grows : Grows paths d d') (place : Location) (content : ByteArray) :
    d'.kind? place = some (.file content) ↔ d.kind? place = some (.file content) := by
  rcases grows.places place with same | ⟨free, made, -⟩
  · rw [same]
  · simp [free, made]

theorem grows_of_makeDirectory {path : Path} (made : d.makeDirectory path = .ok d') :
    Grows [path] d d' := by
  obtain ⟨place, leads, free, working, kinds⟩ := kind?_of_makeDirectory made
  have keeps : Keeps d d' := by
    refine ⟨working, fun other stands => ?_⟩
    rw [kinds]
    split_ifs
    · rfl
    · exact stands
  refine ⟨working, fun other => ?_⟩
  by_cases here : other = place
  · subst here
    exact .inr ⟨free, by rw [kinds, if_pos rfl], path, by simp, keeps.leadsTo leads⟩
  · exact .inl (by rw [kinds, if_neg here])

/-! ## One more file -/

/-- The path leads to a file of that content, and all else is as it was, but for
directories that were made where some of `around` lead. -/
structure Receives (around : List Path) (path : Path) (content : ByteArray) (d d' : Disk) :
    Prop where
  working : d'.working = d.working
  read : d'.read path = .ok content
  places : ∃ place, d'.leadsTo path = .ok place ∧ d'.kind? place = some (.file content) ∧
    ∀ other, other ≠ place → d'.kind? other = d.kind? other ∨
      d.kind? other = none ∧ d'.kind? other = some .directory ∧
        ∃ path ∈ around, d'.leadsTo path = .ok other

theorem Grows.receives {path : Path} {content : ByteArray} (grows : Grows paths d d')
    (written : d'.write path content = .ok d'') : Receives paths path content d d'' := by
  obtain ⟨place, leads, -, working, kinds⟩ := kind?_of_write written
  have keeps := keeps_of_write written
  refine ⟨working.trans grows.working, read_of_write written, place, keeps.leadsTo leads,
    by rw [kinds, if_pos rfl], ?_⟩
  intro other elsewhere
  rw [kinds, if_neg elsewhere]
  rcases grows.places other with same | ⟨free, made, path, member, leads⟩
  · exact .inl same
  · exact .inr ⟨free, made, path, member, keeps.leadsTo leads⟩

/-! ## Stores -/

/-- An operation on the files of states. -/
abbrev Act (σ : Type) : Type := ExceptT FileError (StateM σ) Unit

/-- The operation does to the disk of a state what it should, or fails and leaves the
disk as it was. Why it fails, and what else there is in a state, is open. -/
def Does {σ : Type} (disk : σ → Disk) (change : Disk → Except FileError Disk)
    (operation : Act σ) : Prop :=
  ∀ s, match operation.run s with
    | (.ok (), s') => change (disk s) = .ok (disk s')
    | (.error _, s') => disk s' = disk s

structure Atomic {σ : Type} (disk : σ → Disk) (store : FileStore (StateM σ)) : Prop where
  isDirectory : ∀ path s, disk (store.isDirectory path s).2 = disk s
  write : ∀ path content, Does disk (·.write path content) (store.write path content)
  makeDirectory : ∀ path, Does disk (·.makeDirectory path) (store.makeDirectory path)

theorem does_change (f : Disk → Except FileError Disk) : Does id f (change f) := by
  intro d
  cases changed : f d <;> simp [change, ExceptT.run, changed]

/-- The operations of a disk fail for reasons of their own only. -/
theorem atomic_disk : Atomic id (inferInstance : FileStore (StateM Disk)) where
  isDirectory _ _ := rfl
  write _ _ := does_change _
  makeDirectory _ := does_change _

section Store

variable {σ : Type} {disk : σ → Disk} [store : FileStore (StateM σ)]

omit store in
theorem bind_apply {α β : Type} (x : StateM σ α) (f : α → StateM σ β) (s : σ) :
    (x >>= f) s = f (x s).1 (x s).2 := rfl

theorem run_ensureDirectory (path : Path) (s : σ) :
    (FileStore.ensureDirectory path : Act σ).run s =
      match (store.makeDirectory path).run s with
      | (.ok (), s') => (.ok (), s')
      | (.error e, s') =>
        (if (store.isDirectory path s').1 then .ok () else .error e,
          (store.isDirectory path s').2) := by
  simp only [FileStore.ensureDirectory, ExceptT.run_mk, bind_apply]
  rcases (store.makeDirectory path).run s with ⟨e | u, s'⟩
  · simp only [bind_apply]
    rcases store.isDirectory path s' with ⟨_ | _, s''⟩ <;> rfl
  · rfl

theorem run_makeDirectories {path : Path} (nonempty : path.text.isEmpty = false) (s : σ) :
    (FileStore.makeDirectories path : Act σ).run s =
      match (FileStore.ensureDirectory path : Act σ).run s with
      | (.error .notFound, s') =>
        match path.parent? with
        | none => (.error .noParent, s')
        | some parent =>
          match (FileStore.makeDirectories parent : Act σ).run s' with
          | (.ok (), s'') => (FileStore.ensureDirectory path : Act σ).run s''
          | (.error e, s'') => (.error e, s'')
      | outcome => outcome := by
  rw [FileStore.makeDirectories, nonempty, if_neg Bool.false_ne_true, ExceptT.run_mk, bind_apply]
  rcases (FileStore.ensureDirectory path : Act σ).run s with ⟨e | u, s'⟩
  · cases e with
    | notFound =>
        cases found : path.parent? with
        | none => rfl
        | some parent =>
            simp only [bind_apply]
            rcases (FileStore.makeDirectories parent : Act σ).run s' with ⟨e | u, s''⟩ <;> rfl
    | _ => rfl
  · rfl

/-- What is left to do once the directory around is made. -/
theorem run_makeDirectories_of_parent {path parent : Path} {s s' s'' : σ}
    (nonempty : path.text.isEmpty = false) (found : path.parent? = some parent)
    (missing : (FileStore.ensureDirectory path : Act σ).run s = (.error .notFound, s'))
    (around : (FileStore.makeDirectories parent : Act σ).run s' = (.ok (), s'')) :
    (FileStore.makeDirectories path : Act σ).run s =
      (FileStore.ensureDirectory path : Act σ).run s'' := by
  rw [run_makeDirectories nonempty, missing]
  simp only [found, around]

variable (atomic : Atomic disk store)
include atomic

theorem Atomic.ensureDirectory (path : Path) (s : σ) :
    Grows [path] (disk s) (disk ((FileStore.ensureDirectory path : Act σ).run s).2) := by
  have does := atomic.makeDirectory path s
  rw [run_ensureDirectory]
  rcases ran : (store.makeDirectory path).run s with ⟨_ | _, s'⟩
  · rw [ran] at does
    show Grows [path] (disk s) (disk (store.isDirectory path s').2)
    rw [atomic.isDirectory, does]
    exact .refl _ _
  · rw [ran] at does
    exact grows_of_makeDirectory does

theorem Atomic.makeDirectories (path : Path) (s : σ) :
    Grows path.ancestors (disk s)
      (disk ((FileStore.makeDirectories path : Act σ).run s).2) := by
  by_cases nonempty : path.text.isEmpty = true
  · rw [FileStore.makeDirectories, if_pos nonempty]
    exact .refl _ _
  · have self : ∀ a ∈ [path], a ∈ path.ancestors := by
      simpa using path.mem_ancestors_self
    have first := (atomic.ensureDirectory path s).mono self
    rw [run_makeDirectories (Bool.not_eq_true _ ▸ nonempty)]
    split
    · next s' ran =>
      rw [ran] at first
      cases found : path.parent? with
      | none => exact first
      | some parent =>
          have outer : ∀ a ∈ parent.ancestors, a ∈ path.ancestors := by
            rw [Path.ancestors_of_parent? found]
            exact fun a member => List.mem_cons_of_mem path member
          have around := (Atomic.makeDirectories parent s').mono outer
          rcases made : (FileStore.makeDirectories parent : Act σ).run s' with ⟨e | u, s''⟩
          · rw [made] at around
            simp only [made]
            exact first.trans around
          · rw [made] at around
            have last := (atomic.ensureDirectory path s'').mono self
            simp only [made]
            exact (first.trans around).trans last
    · exact first
termination_by path.text.length
decreasing_by exact Path.length_parent?_lt found

end Store

end Disk

end BoardCompiler
