/-
# BoardCompiler.Proofs.VarName — which names share a variable

A variable name blurs the name that it is made from: `_` stands for itself and for
every character that an identifier cannot have, and a `_` is put in front of a
digit. Two names get one variable exactly if they agree up to that
(`defaultVarName_eq_iff`). Names that are identifiers already lose nothing, so
among them the variable tells every two apart (`sameVariable_iff_of_plain`).
-/
import BoardCompiler.Descriptor
import Mathlib.Data.List.Forall2

namespace BoardCompiler

set_option autoImplicit false

/-- Characters that a variable name writes alike: equal ones, and all that are `_` or
no ASCII letter or digit. -/
def SameChar (c d : Char) : Prop :=
  c = d ∨ (c = '_' ∨ c.isAlphanum = false) ∧ (d = '_' ∨ d.isAlphanum = false)

instance : DecidableRel SameChar := fun c d =>
  inferInstanceAs <| Decidable
    (c = d ∨ (c = '_' ∨ c.isAlphanum = false) ∧ (d = '_' ∨ d.isAlphanum = false))

/-- Names that agree character by character in what a variable name shows of them,
once the one that starts with a digit has a `_` in front. -/
def SameVariable (a b : String) : Prop :=
  List.Forall₂ SameChar (guardDigit a.toList) (guardDigit b.toList)

instance : DecidableRel SameVariable := fun a b =>
  inferInstanceAs <| Decidable (List.Forall₂ SameChar (guardDigit a.toList) (guardDigit b.toList))

/-- Names of ASCII letters, digits and `_` that do not start with a digit. -/
def PlainName (name : String) : Prop :=
  (∀ c ∈ name.toList, c.isAlphanum = true ∨ c = '_') ∧
    ∀ c ∈ name.toList.head?, c.isDigit = false

-- Named instances: the search may also decide the quantifiers by going through all
-- characters there are.
instance : DecidablePred PlainName := fun name =>
  @instDecidableAnd _ _ (List.decidableBAll (fun c => c.isAlphanum = true ∨ c = '_') name.toList)
    (@Option.decidableForallMem _ (fun c => c.isDigit = false) _ name.toList.head?)

theorem isIdentifierChar_iff {c : Char} :
    isIdentifierChar c = true ↔ c.isAlphanum = true ∨ c = '_' := by
  simp [isIdentifierChar]

theorem identifierChar_eq_iff {c d : Char} :
    identifierChar c = identifierChar d ↔ SameChar c d := by
  unfold identifierChar SameChar
  by_cases left : isIdentifierChar c = true <;> by_cases right : isIdentifierChar d = true <;>
    simp only [left, right, if_true, if_false, Bool.false_eq_true] <;>
    rw [isIdentifierChar_iff] at left right <;> grind

theorem isDigit_identifierChar (c : Char) : (identifierChar c).isDigit = c.isDigit := by
  unfold identifierChar
  split
  · rfl
  · next other =>
      have letter : c.isDigit = false := by
        rw [isIdentifierChar_iff, Char.isAlphanum] at other
        simp only [Bool.or_eq_true, not_or, Bool.not_eq_true] at other
        exact other.1.2
      rw [letter]
      decide

/-- Whether a digit comes first is the same before and after the characters are
turned into those of an identifier. -/
theorem guardDigit_map_identifierChar (word : List Char) :
    guardDigit (word.map identifierChar) = (guardDigit word).map identifierChar := by
  cases word with
  | nil => rfl
  | cons c rest =>
      simp only [guardDigit, List.map_cons, isDigit_identifierChar]
      by_cases digit : c.isDigit = true
      · simp only [digit, if_true, List.map_cons]
        rfl
      · simp [digit]

theorem map_eq_map_iff_forall₂ {α β : Type} (f : α → β) (xs ys : List α) :
    xs.map f = ys.map f ↔ List.Forall₂ (fun x y => f x = f y) xs ys := by
  rw [← List.forall₂_eq_eq_eq, List.forall₂_map_left_iff, List.forall₂_map_right_iff]

theorem defaultVarName_eq_iff {a b : String} :
    defaultVarName a = defaultVarName b ↔ SameVariable a b := by
  unfold defaultVarName SameVariable
  rw [String.ofList_inj, List.append_left_inj, guardDigit_map_identifierChar,
    guardDigit_map_identifierChar, map_eq_map_iff_forall₂]
  simp only [identifierChar_eq_iff]

example : SameVariable "1-wire" "_1.wire" := by decide

/-! ## Names that are identifiers -/

theorem map_identifierChar_of_plain {name : String} (plain : PlainName name) :
    name.toList.map identifierChar = name.toList := by
  have kept : ∀ c ∈ name.toList, identifierChar c = id c := by
    intro c member
    rw [identifierChar, isIdentifierChar_iff.mpr (plain.1 c member)]
    rfl
  rw [List.map_congr_left kept, List.map_id]

theorem guardDigit_of_plain {name : String} (plain : PlainName name) :
    guardDigit name.toList = name.toList := by
  cases word : name.toList with
  | nil => rfl
  | cons c rest =>
      have letter : c.isDigit = false := plain.2 c (by simp [word])
      simp [guardDigit, letter]

theorem defaultVarName_of_plain {name : String} (plain : PlainName name) :
    defaultVarName name = name ++ "_cfg" := by
  rw [defaultVarName, map_identifierChar_of_plain plain, guardDigit_of_plain plain,
    String.ofList_append, String.ofList_toList]

theorem sameVariable_iff_of_plain {a b : String} (left : PlainName a) (right : PlainName b) :
    SameVariable a b ↔ a = b := by
  rw [← defaultVarName_eq_iff, defaultVarName_of_plain left, defaultVarName_of_plain right,
    ← String.toList_inj, String.toList_append, String.toList_append, List.append_left_inj,
    String.toList_inj]

end BoardCompiler
