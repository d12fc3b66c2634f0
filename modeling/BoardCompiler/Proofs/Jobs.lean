/-
# BoardCompiler.Proofs.Jobs — how work with files ends

What a job does is seen from a state: its outcome and the state after it, whatever it
writes to the log (`endsFrom`). A sequence of jobs goes on from the state that the
first one leaves, or ends where that one fails (`endsFrom_bind`). Reading a text is
reading a file and taking its content for the text (`run_readText`).
-/
import BoardCompiler.Files.Disk
import BoardCompiler.Project

namespace BoardCompiler

set_option autoImplicit false

namespace LoggedT

variable {ε α β σ : Type}

/-- The outcome of a computation from a state, and the state after it. -/
def endsFrom (x : LoggedT ε (StateM σ) α) (s : σ) : Except ε α × σ :=
  ((x.run s).1.outcome, (x.run s).2)

@[simp] theorem endsFrom_ofLogged (x : Logged ε α) (s : σ) :
    (ofLogged x : LoggedT ε (StateM σ) α).endsFrom s = (x.outcome, s) := rfl

@[simp] theorem endsFrom_lift (x : StateM σ α) (s : σ) :
    (lift x : LoggedT ε (StateM σ) α).endsFrom s = (.ok (x s).1, (x s).2) := rfl

theorem endsFrom_bind (x : LoggedT ε (StateM σ) α) (f : α → LoggedT ε (StateM σ) β) (s : σ) :
    (x >>= f).endsFrom s =
      match x.endsFrom s with
      | (.ok a, s') => (f a).endsFrom s'
      | (.error e, s') => (.error e, s') := by
  show ((LoggedT.bind x f s).1.outcome, (LoggedT.bind x f s).2) =
    match ((x s).1.outcome, (x s).2) with
    | (.ok a, s') => ((f a s').1.outcome, (f a s').2)
    | (.error e, s') => (.error e, s')
  rcases ran : x s with ⟨⟨log, e | a⟩, s'⟩
  · simp only [LoggedT.bind, bind, StateT.bind, ran]
    rfl
  · simp only [LoggedT.bind, bind, StateT.bind, ran]
    rfl

end LoggedT

/-! ## Texts -/

theorem fromUTF8?_eq_some_iff {content : ByteArray} {text : String} :
    String.fromUTF8? content = some text ↔ content = text.toUTF8 := by
  unfold String.fromUTF8?
  split
  · next valid =>
      rw [Option.some.injEq]
      constructor
      · rintro rfl
        rfl
      · rintro rfl
        rfl
  · next invalid =>
      refine iff_of_false nofun ?_
      rintro rfl
      exact invalid text.isValidUTF8

theorem FileStore.run_readText {σ : Type} [store : FileStore (StateM σ)] (path : Path) (s : σ) :
    (readText path : ExceptT FileError (StateM σ) String).run s =
      match (store.read path).run s with
      | (.error e, s') => (.error e, s')
      | (.ok content, s') =>
        (match String.fromUTF8? content with
          | some text => .ok text
          | none => .error .notText, s') := by
  rw [readText, ExceptT.run_bind]
  simp only [bind, StateT.bind]
  rcases (store.read path).run s with ⟨cause | content, s'⟩
  · rfl
  · dsimp only
    cases String.fromUTF8? content <;> rfl

/-- A disk gives the text of a file, and stays as it is. -/
theorem FileStore.run_readText_disk {d : Disk} {path : Path} {text : String}
    (stands : d.read path = .ok text.toUTF8) :
    (readText path : ExceptT FileError (StateM Disk) String).run d = (.ok text, d) := by
  have read : (FileStore.read path : ExceptT FileError (StateM Disk) ByteArray).run d =
      (.ok text.toUTF8, d) := congrArg (·, d) stands
  rw [run_readText, read]
  simp only [fromUTF8?_eq_some_iff.mpr rfl]

/-! ## Files -/

namespace Project

open Job (onFile)

variable {α σ : Type}

@[simp] theorem endsFrom_onFile (action : FileAction) (path : Path)
    (x : ExceptT FileError (StateM σ) α) (s : σ) :
    (onFile action path x).endsFrom s =
      ((x.run s).1.mapError (.file action path), (x.run s).2) := rfl

end Project

end BoardCompiler
