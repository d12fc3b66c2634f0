/-
# BoardCompiler.Proofs.SortedTable — reading a table after an insertion

An insertion decides what stands under its own name and changes nothing under any
other (`get?_insert_self`, `get?_insert_of_ne`). Neither needs the entries to be
sorted: a search passes the same entries before and after. A table that is `Sorted`
stays so (`Sorted.insert`), and has each of its names once.
-/
import BoardCompiler.SortedTable
import Mathlib.Data.String.Basic

namespace BoardCompiler.SortedTable

set_option autoImplicit false

variable {α : Type}

@[simp] theorem get?_empty (name : String) : (empty : SortedTable α).get? name = none := rfl

theorem mem_entries_of_get? {table : SortedTable α} {name : String} {value : α}
    (found : table.get? name = some value) : (name, value) ∈ table.entries := by
  obtain ⟨entry, hit, rfl⟩ := Option.map_eq_some_iff.mp found
  have same : entry.1 = name := by simpa using List.find?_some hit
  exact same ▸ List.mem_of_find?_eq_some hit

theorem find?_insertEntry_self (name : String) (value : α) (entries : List (String × α)) :
    (insertEntry name value entries).find? (fun entry => entry.1 == name) =
      some (name, value) := by
  induction entries with
  | nil => simp [insertEntry]
  | cons entry rest ih =>
      obtain ⟨n, v⟩ := entry
      rw [insertEntry]
      by_cases before : name < n
      · simp [before]
      · by_cases same : name = n
        · simp [same]
        · simp [before, same, Ne.symm same, ih]

theorem find?_insertEntry_of_ne {name other : String} (ne : other ≠ name) (value : α)
    (entries : List (String × α)) :
    (insertEntry name value entries).find? (fun entry => entry.1 == other) =
      entries.find? (fun entry => entry.1 == other) := by
  induction entries with
  | nil => simp [insertEntry, Ne.symm ne]
  | cons entry rest ih =>
      obtain ⟨n, v⟩ := entry
      rw [insertEntry]
      by_cases before : name < n
      · simp [before, Ne.symm ne]
      · by_cases same : name = n
        · subst same
          simp [Ne.symm ne]
        · rw [if_neg before, if_neg same]
          by_cases hit : n = other <;> simp [hit, ih]

@[simp] theorem get?_insert_self (table : SortedTable α) (name : String) (value : α) :
    (table.insert name value).get? name = some value := by
  simp [get?, insert, find?_insertEntry_self]

theorem get?_insert_of_ne (table : SortedTable α) {name other : String} (ne : other ≠ name)
    (value : α) : (table.insert name value).get? other = table.get? other := by
  simp [get?, insert, find?_insertEntry_of_ne ne]

/-- An insertion answers for its own name, the table for the others. -/
theorem get?_insert (table : SortedTable α) (name other : String) (value : α) :
    (table.insert name value).get? other =
      (if name = other then some value else none).or (table.get? other) := by
  by_cases same : name = other
  · subst same
    simp
  · simp [same, get?_insert_of_ne table (Ne.symm same)]

@[simp] theorem contains_empty (name : String) :
    (empty : SortedTable α).contains name = false := rfl

theorem contains_insert_iff (table : SortedTable α) (name other : String) (value : α) :
    (table.insert name value).contains other = true ↔
      other = name ∨ table.contains other = true := by
  unfold contains
  by_cases same : other = name
  · subst same
    simp
  · simp [get?_insert_of_ne table same, same]

/-! ## The order of the names -/

/-- The names stand in increasing order, so each of them once. -/
def Sorted (table : SortedTable α) : Prop := table.names.Pairwise (· < ·)

theorem sorted_empty : (empty : SortedTable α).Sorted := .nil

theorem Sorted.nodup_names {table : SortedTable α} (sorted : table.Sorted) : table.names.Nodup :=
  sorted.imp fun {_ _} less => ne_of_lt less

theorem contains_iff_mem_names {table : SortedTable α} {name : String} :
    table.contains name = true ↔ name ∈ table.names := by
  simp [contains, get?, names]

theorem mem_map_fst_insertEntry (name other : String) (value : α) (entries : List (String × α)) :
    other ∈ (insertEntry name value entries).map (·.1) ↔
      other = name ∨ other ∈ entries.map (·.1) := by
  induction entries with
  | nil => simp [insertEntry]
  | cons entry rest ih =>
      obtain ⟨n, v⟩ := entry
      rw [insertEntry]
      split_ifs with before same
      · simp
      · simp [same]
      · rw [List.map_cons, List.map_cons, List.mem_cons, List.mem_cons, ih]
        tauto

theorem mem_names_insert_iff (table : SortedTable α) (name other : String) (value : α) :
    other ∈ (table.insert name value).names ↔ other = name ∨ other ∈ table.names :=
  mem_map_fst_insertEntry name other value table.entries

theorem pairwise_insertEntry {entries : List (String × α)}
    (sorted : (entries.map (·.1)).Pairwise (· < ·)) (name : String) (value : α) :
    ((insertEntry name value entries).map (·.1)).Pairwise (· < ·) := by
  induction entries with
  | nil => simp [insertEntry]
  | cons entry rest ih =>
      obtain ⟨n, v⟩ := entry
      obtain ⟨least, later⟩ := List.pairwise_cons.mp sorted
      rw [insertEntry]
      split_ifs with before same
      · refine List.pairwise_cons.mpr ⟨?_, sorted⟩
        intro other member
        rcases List.mem_cons.mp member with rfl | member
        · exact before
        · exact before.trans (least other member)
      · exact same ▸ sorted
      · refine List.pairwise_cons.mpr ⟨?_, ih later⟩
        intro other member
        rcases (mem_map_fst_insertEntry name other value rest).mp member with rfl | member
        · exact lt_of_le_of_ne (not_lt.mp before) (Ne.symm same)
        · exact least other member

theorem Sorted.insert {table : SortedTable α} (sorted : table.Sorted) (name : String) (value : α) :
    (table.insert name value).Sorted :=
  pairwise_insertEntry sorted name value

end BoardCompiler.SortedTable
