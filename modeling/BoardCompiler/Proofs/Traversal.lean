/-
# BoardCompiler.Proofs.Traversal — lists gone through one by one

A list is gone through if each of its members is, and the results stand in its order
(`mapM_eq_some_iff`, `mapM_eq_ok_iff`). Otherwise it is given up at the first member that
is refused, with what that member is refused with (`mapM_eq_error_iff`).
-/
import Mathlib.Data.List.Forall2

namespace BoardCompiler

set_option autoImplicit false

variable {α β ε : Type}

/-- What is related to two lists one after the other comes in two parts. -/
theorem forall₂_append_left_iff {r : α → β → Prop} {xs ys : List α} {zs : List β} :
    List.Forall₂ r (xs ++ ys) zs ↔
      ∃ as bs, List.Forall₂ r xs as ∧ List.Forall₂ r ys bs ∧ zs = as ++ bs := by
  induction xs generalizing zs with
  | nil => simp
  | cons x rest ih =>
      simp only [List.cons_append, List.forall₂_cons_left_iff, ih]
      constructor
      · rintro ⟨z, _, head, ⟨as, bs, tail, others, rfl⟩, rfl⟩
        exact ⟨z :: as, bs, ⟨z, as, head, tail, rfl⟩, others, rfl⟩
      · rintro ⟨_, bs, ⟨z, as, head, tail, rfl⟩, others, rfl⟩
        exact ⟨z, as ++ bs, head, ⟨as, bs, tail, others, rfl⟩, rfl⟩

theorem mapM_eq_some_iff {f : α → Option β} {xs : List α} {ys : List β} :
    xs.mapM f = some ys ↔ List.Forall₂ (fun x y => f x = some y) xs ys := by
  induction xs generalizing ys with
  | nil => simp [eq_comm]
  | cons x rest ih =>
      rw [List.mapM_cons, List.forall₂_cons_left_iff]
      simp only [bind, Option.bind_eq_some_iff, pure, Option.some.injEq, ih]
      constructor
      · rintro ⟨y, head, others, tail, rfl⟩
        exact ⟨y, others, head, tail, rfl⟩
      · rintro ⟨y, others, head, tail, rfl⟩
        exact ⟨y, head, others, tail, rfl⟩

/-- A list gone through is its first member and then the others. -/
theorem mapM_cons_eq_ok_iff {f : α → Except ε β} {x : α} {rest : List α} {ys : List β} :
    (x :: rest).mapM f = .ok ys ↔ ∃ y others, f x = .ok y ∧ rest.mapM f = .ok others ∧
      ys = y :: others := by
  rw [List.mapM_cons]
  cases f x with
  | error e => exact iff_of_false nofun (by simp)
  | ok y =>
      change (rest.mapM f).bind (fun others => .ok (y :: others)) = .ok ys ↔ _
      cases rest.mapM f with
      | error e => exact iff_of_false nofun (by simp)
      | ok others => simp [Except.bind, eq_comm]

theorem mapM_eq_ok_iff {f : α → Except ε β} {xs : List α} {ys : List β} :
    xs.mapM f = .ok ys ↔ List.Forall₂ (fun x y => f x = .ok y) xs ys := by
  induction xs generalizing ys with
  | nil => simp [pure, Except.pure, eq_comm]
  | cons x rest ih =>
      simp only [mapM_cons_eq_ok_iff, List.forall₂_cons_left_iff, ih, exists_and_left]

theorem mapM_eq_error_iff {f : α → Except ε β} {xs : List α} {e : ε} :
    xs.mapM f = .error e ↔ ∃ before x after, xs = before ++ x :: after ∧
      (∀ y ∈ before, ∃ b, f y = .ok b) ∧ f x = .error e := by
  induction xs with
  | nil => simp [pure, Except.pure]
  | cons x rest ih =>
      rw [List.mapM_cons]
      cases head : f x with
      | error e' =>
          change Except.error e' = _ ↔ _
          constructor
          · rintro ⟨⟩
            exact ⟨[], x, rest, rfl, by simp, head⟩
          · rintro ⟨_ | ⟨y, before⟩, z, after, split, passed, refused⟩
            · cases split
              rw [Except.error.inj (head.symm.trans refused)]
            · cases split
              obtain ⟨b, passed⟩ := passed x (List.mem_cons_self ..)
              rw [head] at passed
              cases passed
      | ok b =>
          have tail : ((Except.ok b : Except ε β) >>= fun b => do
              return b :: (← rest.mapM f)) = .error e ↔ rest.mapM f = .error e := by
            change (rest.mapM f).bind (fun others => .ok (b :: others)) = .error e ↔ _
            cases rest.mapM f <;> simp [Except.bind]
          rw [tail, ih]
          constructor
          · rintro ⟨before, z, after, rfl, passed, refused⟩
            refine ⟨x :: before, z, after, rfl, ?_, refused⟩
            intro y member
            rcases List.mem_cons.mp member with rfl | member
            · exact ⟨b, head⟩
            · exact passed y member
          · rintro ⟨_ | ⟨y, before⟩, z, after, split, passed, refused⟩
            · cases split
              rw [head] at refused
              cases refused
            · cases split
              exact ⟨before, z, after, rfl, fun y member =>
                passed y (List.mem_cons_of_mem _ member), refused⟩

end BoardCompiler
