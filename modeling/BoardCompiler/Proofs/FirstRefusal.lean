/-
# BoardCompiler.Proofs.FirstRefusal — the first check that refuses decides

A check is written as what it refuses with, if it refuses. `Decides checks x` says
that the outcome `x` is that of making the checks in order: the first refusal is its
error, and it has a value where none refuses. Checks made one after another decide the
computations made one after another (`Decides.bind`), so the checks of a program are
read off along its steps, and in the end its errors off the checks
(`Decides.eq_error_iff`).
-/
import Mathlib.Data.List.Basic

namespace BoardCompiler

set_option autoImplicit false

/-- The outcome is the first refusal of the checks, or a value where none refuses. -/
def Decides {ε α : Type} (checks : List (Option ε)) (x : Except ε α) : Prop :=
  match checks.findSome? id with
  | some e => x = .error e
  | none => ∃ a, x = .ok a

namespace Decides

variable {ε ε' α β : Type} {checks : List (Option ε)} {x : Except ε α}

theorem of_ok (a : α) : Decides ([] : List (Option ε)) (.ok a) := ⟨a, rfl⟩

/-- After a refusal no check is looked at. -/
theorem of_error (e : ε) (checks : List (Option ε)) :
    Decides (some e :: checks) (.error e : Except ε α) := rfl

/-- A check in front that passes changes nothing. -/
theorem cons_none (decides : Decides checks x) : Decides (none :: checks) x := decides

theorem cases (decides : Decides checks x) :
    (∃ e, checks.findSome? id = some e ∧ x = .error e) ∨
      checks.findSome? id = none ∧ ∃ a, x = .ok a := by
  unfold Decides at decides
  cases found : checks.findSome? id with
  | some e =>
      rw [found] at decides
      exact .inl ⟨e, rfl, decides⟩
  | none =>
      rw [found] at decides
      exact .inr ⟨rfl, decides⟩

theorem bind {f : α → Except ε β} (first : Decides checks x) (later : List (Option ε))
    (second : ∀ a, x = .ok a → Decides later (f a)) : Decides (checks ++ later) (x.bind f) := by
  rcases first.cases with ⟨e, found, rfl⟩ | ⟨found, a, rfl⟩
  · simp [Decides, List.findSome?_append, found, Except.bind]
  · have rest : Decides later (f a) := second a rfl
    simpa [Decides, List.findSome?_append, found, Except.bind] using rest

theorem map (f : α → β) (decides : Decides checks x) : Decides checks (x.map f) := by
  rcases decides.cases with ⟨e, found, rfl⟩ | ⟨found, a, rfl⟩ <;>
    simp [Decides, found, Except.map]

/-- Checks with their refusals seen through a function refuse where they did. -/
theorem findSome?_map_refusals (f : ε → ε') (checks : List (Option ε)) :
    (checks.map (Option.map f)).findSome? id = (checks.findSome? id).map f := by
  rw [List.findSome?_map, List.map_findSome?]
  rfl

theorem mapError (f : ε → ε') (decides : Decides checks x) :
    Decides (checks.map (Option.map f)) (x.mapError f) := by
  rcases decides.cases with ⟨e, found, rfl⟩ | ⟨found, a, rfl⟩ <;>
    simp [Decides, findSome?_map_refusals, found, Except.mapError]

/-- An error is a refusal that only passing checks stand in front of. -/
theorem eq_error_iff {f : ε → ε'} {x : Except ε' α}
    (decides : Decides (checks.map (Option.map f)) x) (error : ε') :
    x = .error error ↔
      ∃ passed e later, checks = passed ++ some e :: later ∧
        (∀ check ∈ passed, check = none) ∧ error = f e := by
  have split : ∀ e, checks.findSome? id = some e ↔
      ∃ passed later, checks = passed ++ some e :: later ∧ ∀ check ∈ passed, check = none := by
    intro e
    rw [List.findSome?_eq_some_iff]
    constructor
    · rintro ⟨passed, check, later, same, refuses, pass⟩
      exact ⟨passed, later, refuses ▸ same, pass⟩
    · rintro ⟨passed, later, same, pass⟩
      exact ⟨passed, some e, later, same, rfl, pass⟩
  have first : x = .error error ↔ ∃ e, checks.findSome? id = some e ∧ error = f e := by
    have outcome := decides.cases
    rw [findSome?_map_refusals] at outcome
    rcases outcome with ⟨e', found, rfl⟩ | ⟨found, a, rfl⟩
    · obtain ⟨e, refuses, rfl⟩ := Option.map_eq_some_iff.mp found
      simp [refuses, eq_comm]
    · simp [Option.map_eq_none_iff.mp found]
  rw [first]
  constructor
  · rintro ⟨e, found, same⟩
    obtain ⟨passed, later, parts, pass⟩ := (split e).mp found
    exact ⟨passed, e, later, parts, pass, same⟩
  · rintro ⟨passed, e, later, parts, pass, same⟩
    exact ⟨e, (split e).mpr ⟨passed, later, parts, pass⟩, same⟩

end Decides

end BoardCompiler
