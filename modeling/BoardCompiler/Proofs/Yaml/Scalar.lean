/-
# BoardCompiler.Proofs.Yaml.Scalar — scalars that are null and scalars that are strings

Of what a scalar may be (`Scalar.classify`) two cases matter to those who look for a
collection or a key: null, which depends on the tag and on whether the scalar is quoted
(`classify_eq_null_iff`), and a string, which is always the text as it stands
(`string_of_classify`).
-/
import BoardCompiler.Yaml.Scalar
import Mathlib.Tactic.Common

namespace BoardCompiler.Yaml

set_option autoImplicit false

/-- Whether a tag leaves open what a scalar is. -/
def NodeTag.isOpen : NodeTag → Bool
  | .none | .own _ | .unreadable => true
  | _ => false

namespace Scalar

variable {tag : NodeTag} {plain : Bool} {text : List Char} {s : String}

theorem isEmpty_ofList (text : List Char) : (String.ofList text).isEmpty = text.isEmpty := by
  rw [Bool.eq_iff_iff, String.isEmpty_iff, List.isEmpty_iff]
  exact String.ofList_eq_empty_iff

/-- An integer is nothing else, however wide. -/
theorem integer_of_sized? {n : Int} {found : Found} (sized : sized? n = some found) :
    found = .integer n ∨ found = .wideInteger n := by
  unfold sized? at sized
  split at sized
  · cases sized
    exact .inl rfl
  split at sized
  · cases sized
    exact .inr rfl
  · cases sized

theorem integer_of_bind_sized? {found : Found} (sized : (integer? text).bind sized? = some found) :
    ∃ n, found = .integer n ∨ found = .wideInteger n := by
  obtain ⟨n, -, sized⟩ := Option.bind_eq_some_iff.mp sized
  exact ⟨n, integer_of_sized? sized⟩

theorem resolve_eq_null_iff :
    resolve text = .null ↔ (text.isEmpty || isNullWord (String.ofList text)) = true := by
  unfold resolve
  simp only [isEmpty_ofList]
  split
  next void => exact iff_of_true rfl void
  next full =>
    refine iff_of_false ?_ full
    split
    · exact nofun
    split
    next sized =>
      obtain ⟨n, rfl | rfl⟩ := integer_of_bind_sized? sized <;> exact nofun
    split
    · exact nofun
    split <;> exact nofun

theorem string_of_resolve (string : resolve text = .string s) : s = String.ofList text := by
  unfold resolve at string
  dsimp only at string
  split at string
  · cases string
  split at string
  · cases string
  split at string
  next sized =>
    obtain ⟨n, rfl | rfl⟩ := integer_of_bind_sized? sized <;> cases string
  split at string
  · cases string
    rfl
  split at string <;> cases string
  rfl

/-- A tag of a scalar type other than null asks for neither null nor a string. -/
theorem ne_of_classify_typed {found : Found}
    (typed : tag = .bool ∨ tag = .integer ∨ tag = .float)
    (given : classify tag plain text = .ok found) : found ≠ .null ∧ found ≠ .string s := by
  rcases typed with rfl | rfl | rfl
  · cases word : bool? (String.ofList text) <;> simp only [classify, word] at given <;> cases given
    exact ⟨nofun, nofun⟩
  · cases sized : (integer? text).bind sized? <;> simp only [classify, sized] at given <;>
      cases given
    obtain ⟨n, rfl | rfl⟩ := integer_of_bind_sized? sized <;> exact ⟨nofun, nofun⟩
  · cases number : float? text <;> simp only [classify, number] at given <;> cases given
    exact ⟨nofun, nofun⟩

theorem classify_eq_null_iff :
    classify tag plain text = .ok .null ↔
      tag = .null ∧ isNullWord (String.ofList text) = true ∨
        tag.isOpen = true ∧ plain = true ∧
          (text.isEmpty || isNullWord (String.ofList text)) = true := by
  have opened : (Except.ok (if plain then resolve text else .string (String.ofList text)) :
      Except (String × String) Found) = .ok .null ↔
        plain = true ∧ (text.isEmpty || isNullWord (String.ofList text)) = true := by
    cases plain
    · simp
    · simpa using resolve_eq_null_iff
  have typed : tag = .bool ∨ tag = .integer ∨ tag = .float → classify tag plain text ≠ .ok .null :=
    fun typed given => (ne_of_classify_typed (s := "") typed given).1 rfl
  cases tag with
  | none | own _ | unreadable => simpa [classify, NodeTag.isOpen] using opened
  | null => cases word : isNullWord (String.ofList text) <;> simp [classify, word, NodeTag.isOpen]
  | other => simp [classify, NodeTag.isOpen]
  | bool | integer | float => simpa [NodeTag.isOpen] using typed

/-- A scalar that is a string is its text. -/
theorem string_of_classify (string : classify tag plain text = .ok (.string s)) :
    s = String.ofList text := by
  cases tag with
  | none | own _ | unreadable =>
      have found := Except.ok.inj string
      cases plain with
      | false =>
          cases found
          rfl
      | true => exact string_of_resolve found
  | other =>
      cases string
      rfl
  | null =>
      cases word : isNullWord (String.ofList text) <;> simp only [classify, word] at string <;>
        cases string
  | bool | integer | float => exact absurd rfl (ne_of_classify_typed (by simp) string).2

end Scalar

end BoardCompiler.Yaml
