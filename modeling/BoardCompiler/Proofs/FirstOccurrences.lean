/-
# BoardCompiler.Proofs.FirstOccurrences — a list without its repetitions

`List.eraseDups` keeps each element at its first place: no element twice
(`nodup_eraseDups`), the order of the list (`idxOf_eraseDups_lt_iff`), and one more element
at the end of a list comes to stand behind the others if it is new and changes nothing if it
is not (`eraseDups_concat`).
-/
import Mathlib.Data.List.Perm.Basic

namespace BoardCompiler

set_option autoImplicit false

variable {α : Type} [BEq α] [LawfulBEq α]

theorem nodup_eraseDups (xs : List α) : xs.eraseDups.Nodup := by
  match xs with
  | [] => simp
  | x :: rest =>
      rw [List.eraseDups_cons, List.nodup_cons]
      refine ⟨?_, nodup_eraseDups _⟩
      simp [List.mem_eraseDups]
  termination_by xs.length
  decreasing_by simpa using Nat.lt_succ_of_le (List.length_filter_le _ rest)

/-- Lists with the same elements have the same first occurrences, up to their order. -/
theorem perm_eraseDups {xs ys : List α} (same : ∀ x, x ∈ xs ↔ x ∈ ys) :
    xs.eraseDups.Perm ys.eraseDups := by
  refine (List.perm_ext_iff_of_nodup (nodup_eraseDups xs) (nodup_eraseDups ys)).mpr fun x => ?_
  rw [List.mem_eraseDups, List.mem_eraseDups, same]

/-- Leaving other elements out does not change which of two comes first. -/
theorem idxOf_filter_lt_iff {p : α → Bool} {x y : α} (keepsX : p x = true) (keepsY : p y = true)
    (xs : List α) : (xs.filter p).idxOf x < (xs.filter p).idxOf y ↔ xs.idxOf x < xs.idxOf y := by
  induction xs with
  | nil => simp
  | cons z rest ih =>
      by_cases first : z = x
      · subst first
        by_cases same : z = y
        · simp [same]
        · simp [keepsX, same]
      · by_cases second : z = y
        · subst second
          simp [keepsY, first]
        · by_cases kept : p z = true <;> simp [kept, first, second, ih]

/-- First occurrences stand in the order of the list. -/
theorem idxOf_eraseDups_lt_iff (x y : α) (xs : List α) :
    xs.eraseDups.idxOf x < xs.eraseDups.idxOf y ↔ xs.idxOf x < xs.idxOf y := by
  match xs with
  | [] => simp
  | z :: rest =>
      rw [List.eraseDups_cons]
      by_cases first : z = x
      · subst first
        by_cases same : z = y <;> simp [same]
      · by_cases second : z = y
        · simp [second]
        · have later := idxOf_eraseDups_lt_iff x y (rest.filter fun w => !w == z)
          have order := idxOf_filter_lt_iff (p := fun w => !w == z) (x := x) (y := y)
            (by simp [Ne.symm first]) (by simp [Ne.symm second]) rest
          simp [first, second, later, order]
  termination_by xs.length
  decreasing_by simpa using Nat.lt_succ_of_le (List.length_filter_le _ rest)

/-- One element more at the end of a list. -/
theorem eraseDups_concat (xs : List α) (x : α) :
    (xs ++ [x]).eraseDups = if x ∈ xs then xs.eraseDups else xs.eraseDups ++ [x] := by
  have single : [x].eraseDups = [x] := rfl
  rw [List.eraseDups_append]
  by_cases member : x ∈ xs <;> simp [List.removeAll, member, single]

end BoardCompiler
