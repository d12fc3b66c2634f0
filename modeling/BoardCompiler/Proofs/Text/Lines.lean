/-
# BoardCompiler.Proofs.Text.Lines — the lines of a text

Pieces of text put out one after another, each ended by a newline, are lines only
where none of them has a newline inside (`Lines`). What they come to is a matter of
counting: the text has a newline for each piece and those inside the pieces
(`newlines_unlines`). Columns and numbers add none, and a text has at least those of
whatever stands in it (`newlines_le_of_within`).
-/
import BoardCompiler.Text.Column
import BoardCompiler.Text.Lines

namespace BoardCompiler.Text

set_option autoImplicit false

/-- How many newlines a text has. -/
def newlines (s : String) : Nat := s.toList.count '\n'

theorem newlines_eq_zero_iff {s : String} : newlines s = 0 ↔ '\n' ∉ s.toList :=
  List.count_eq_zero

@[simp] theorem newlines_append (s t : String) : newlines (s ++ t) = newlines s + newlines t := by
  rw [newlines, String.toList_append, List.count_append]
  rfl

/-- Padding is of spaces. -/
@[simp] theorem newlines_column (width : Nat) (s : String) :
    newlines (column width s) = newlines s := by
  have padding : newlines (String.ofList (List.replicate (width - s.length) ' ')) = 0 := by
    rw [newlines_eq_zero_iff, String.toList_ofList]
    intro member
    cases List.eq_of_mem_replicate member
  rw [column, newlines_append, padding, Nat.add_zero]

@[simp] theorem newlines_toString (n : Nat) : newlines (toString n) = 0 := by
  rw [newlines_eq_zero_iff]
  intro member
  have digits : (toString n).toList = Nat.toDigits 10 n := String.toList_ofList
  rw [digits] at member
  have digit : '\n'.isDigit = true := Nat.isDigit_of_mem_toDigits (by decide) (by decide) member
  cases digit

theorem newlines_unlines (pieces : List String) :
    newlines (unlines pieces) = pieces.length + newlines (String.join pieces) := by
  induction pieces with
  | nil => rfl
  | cons piece rest ih =>
      have ended : newlines "\n" = 1 := rfl
      rw [unlines_cons, newlines_append, newlines_append, ended, ih, List.length_cons,
        String.join_cons, newlines_append]
      omega

theorem newlines_join_map_congr {α : Type} {f g : α → String} {xs : List α}
    (same : ∀ x ∈ xs, newlines (f x) = newlines (g x)) :
    newlines (String.join (xs.map f)) = newlines (String.join (xs.map g)) := by
  induction xs with
  | nil => rfl
  | cons x rest ih =>
      have head := same x List.mem_cons_self
      have tail := ih fun y member => same y (List.mem_cons_of_mem x member)
      rw [List.map_cons, List.map_cons, String.join_cons, String.join_cons, newlines_append,
        newlines_append, head, tail]

/-- The text is these lines, each ended by a newline and with none inside. -/
structure Lines (text : String) (lines : List String) : Prop where
  text_eq : text = unlines lines
  whole : ∀ line ∈ lines, '\n' ∉ line.toList

/-- The whole of a text stands somewhere in another. -/
def Within (part text : String) : Prop := ∃ before after, text = before ++ part ++ after

theorem newlines_le_of_within {part text : String} (within : Within part text) :
    newlines part ≤ newlines text := by
  obtain ⟨before, after, rfl⟩ := within
  rw [newlines_append, newlines_append]
  omega

theorem column_eq_append (width : Nat) (s : String) : ∃ spaces, column width s = s ++ spaces :=
  ⟨_, rfl⟩

end BoardCompiler.Text
