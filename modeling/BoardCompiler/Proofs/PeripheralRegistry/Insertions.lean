/-
# BoardCompiler.Proofs.PeripheralRegistry.Insertions — the first insertion of a name counts

A registry is filled by insertions one after another, of which some are refused. What it is
then depends on the first insertion of each name only: its order has their names, and its
table finds their peripherals (`Filled`). One more insertion keeps that, whether it is
refused or not (`Filled.attempt`), so every run of insertions does (`filled_ofInsertions`).
All that a registry answers follows from it (`insertions_first_come`).
-/
import BoardCompiler.Proofs.FirstOccurrences
import BoardCompiler.Proofs.PeripheralRegistry
import Mathlib.Data.List.Induction

namespace BoardCompiler.PeripheralRegistry

set_option autoImplicit false

/-- A peripheral as it is to be registered. -/
structure Insertion where
  name : String
  kind : String
  descriptor : StructDescriptor

def Insertion.peripheral (i : Insertion) : RegisteredPeripheral := ⟨i.kind, i.descriptor⟩

/-- The registry after an insertion, refused or not. -/
def attempt (r : PeripheralRegistry) (i : Insertion) : PeripheralRegistry :=
  ((register i.name i.kind i.descriptor).run r).2

/-- The registry that insertions fill from the empty one. -/
def ofInsertions (insertions : List Insertion) : PeripheralRegistry :=
  insertions.foldl attempt empty

/-- The first insertion of a name. -/
def first? (insertions : List Insertion) (name : String) : Option Insertion :=
  insertions.find? (·.name == name)

variable {r : PeripheralRegistry} {insertions : List Insertion}

theorem insert_eq_error_iff {name kind : String} {descriptor : StructDescriptor}
    {error : EntityError} :
    r.insert name kind descriptor = .error error ↔
      r.contains name = true ∧ error = ⟨name, kind, .duplicate⟩ := by
  cases taken : r.contains name <;> simp [insert_eq, taken, eq_comm]

theorem register_of_contains {name : String} (taken : r.contains name = true) (kind : String)
    (descriptor : StructDescriptor) :
    (register name kind descriptor).run r = (.error ⟨name, kind, .duplicate⟩, r) := by
  rw [run_register, if_pos taken]

theorem attempt_of_contains {i : Insertion} (taken : r.contains i.name = true) :
    r.attempt i = r := by
  rw [attempt, register_of_contains taken]

theorem attempt_of_fresh {i : Insertion} (fresh : r.contains i.name = false) :
    r.attempt i = r.add i.name i.peripheral := by
  simp [attempt, run_register, fresh, Insertion.peripheral]

/-! ## Insertion by insertion -/

/-- The registry holds the first insertion of each name, in their order. -/
structure Filled (r : PeripheralRegistry) (insertions : List Insertion) : Prop where
  sorted : r.table.Sorted
  order : r.order = (insertions.map (·.name)).eraseDups
  found : ∀ name, r.table.get? name = (first? insertions name).map Insertion.peripheral

theorem filled_empty : empty.Filled [] where
  sorted := SortedTable.sorted_empty
  order := rfl
  found _ := rfl

namespace Filled

theorem contains_iff (filled : r.Filled insertions) {name : String} :
    r.contains name = true ↔ name ∈ insertions.map (·.name) := by
  rw [contains, SortedTable.contains, filled.found, Option.isSome_map, first?, List.find?_isSome]
  simp

/-- What an insertion adds is the first of its name, and what it is refused for was there
before. -/
theorem attempt (filled : r.Filled insertions) (i : Insertion) :
    (r.attempt i).Filled (insertions ++ [i]) := by
  have earlier : ∀ name, first? (insertions ++ [i]) name =
      (first? insertions name).or (if i.name == name then some i else none) := fun name => by
    simp [first?, List.find?_append, List.find?_singleton]
  cases taken : r.contains i.name with
  | true =>
      rw [attempt_of_contains taken]
      refine ⟨filled.sorted, ?_, fun name => ?_⟩
      · rw [List.map_append, List.map_singleton, eraseDups_concat,
          if_pos (filled.contains_iff.mp taken), filled.order]
      · rw [filled.found, earlier]
        by_cases same : i.name = name
        · obtain ⟨j, held⟩ : ∃ j, first? insertions name = some j := by
            rw [← same]
            simpa [contains, SortedTable.contains, filled.found, Option.isSome_iff_exists]
              using taken
          rw [held, Option.some_or]
        · simp [same]
  | false =>
      have new : i.name ∉ insertions.map (·.name) := by
        simp [← filled.contains_iff, taken]
      rw [attempt_of_fresh taken]
      refine ⟨filled.sorted.insert i.name i.peripheral, ?_, fun name => ?_⟩
      · rw [List.map_append, List.map_singleton, eraseDups_concat, if_neg new, ← filled.order]
        rfl
      · rw [add, SortedTable.get?_insert, filled.found, earlier]
        by_cases same : i.name = name
        · have none : first? insertions name = none := by
            simpa [contains, SortedTable.contains, filled.found, same] using taken
          simp [same, none]
        · simp [same]

end Filled

theorem filled_ofInsertions (insertions : List Insertion) :
    (ofInsertions insertions).Filled insertions := by
  induction insertions using List.reverseRecOn with
  | nil => exact filled_empty
  | append_singleton earlier i ih =>
      rw [ofInsertions, List.foldl_append]
      exact ih.attempt i

/-! ## What a filled registry answers -/

namespace Filled

theorem wellFormed (filled : r.Filled insertions) : r.WellFormed where
  nodup := by
    rw [filled.order]
    exact nodup_eraseDups _
  mem_order_iff name := by rw [filled.order, List.mem_eraseDups, filled.contains_iff]

theorem perm_names (filled : r.Filled insertions) : r.order.Perm r.table.names := by
  have once := filled.wellFormed.nodup
  refine (List.perm_ext_iff_of_nodup once filled.sorted.nodup_names).mpr fun name => ?_
  exact (filled.wellFormed.mem_order_iff name).trans SortedTable.contains_iff_mem_names

theorem size_eq (filled : r.Filled insertions) : r.size = r.entries.length :=
  calc r.size = r.table.names.length := List.length_map .. |>.symm
    _ = r.order.length := filled.perm_names.length_eq.symm
    _ = (r.entries.map (·.1)).length := by rw [filled.wellFormed.map_fst_entries]
    _ = r.entries.length := List.length_map ..

theorem contains_iff_exists_entry (filled : r.Filled insertions) {name : String} :
    r.contains name = true ↔ ∃ peripheral, (name, peripheral) ∈ r.entries := by
  rw [← filled.wellFormed.mem_order_iff, ← filled.wellFormed.map_fst_entries]
  simp

theorem mem_entries_iff (filled : r.Filled insertions) {name : String}
    {peripheral : RegisteredPeripheral} :
    (name, peripheral) ∈ r.entries ↔
      ∃ i, first? insertions name = some i ∧ peripheral = i.peripheral := by
  have known : r.table.get? name = some peripheral → name ∈ r.order := fun found => by
    rw [filled.wellFormed.mem_order_iff, contains, SortedTable.contains, found, Option.isSome_some]
  have listed : (name, peripheral) ∈ r.entries ↔ r.table.get? name = some peripheral := by
    rw [entries, List.mem_filterMap]
    constructor
    · rintro ⟨other, -, found⟩
      obtain ⟨_, found, same⟩ := Option.map_eq_some_iff.mp found
      cases same
      exact found
    · intro found
      exact ⟨name, known found, by rw [found, Option.map_some]⟩
  rw [listed, filled.found, Option.map_eq_some_iff]
  simp only [eq_comm]

end Filled

/-- Names are taken first come, first served: table and order hold the same names, each
once, the entries are the first insertions in their order, and a name that is taken is
refused and changes nothing. -/
structure FirstCome (r : PeripheralRegistry) (insertions : List Insertion) : Prop where
  nodup_order : r.order.Nodup
  perm_names : r.order.Perm r.table.names
  size_eq : r.size = r.entries.length
  contains_iff : ∀ name, r.contains name = true ↔ ∃ peripheral, (name, peripheral) ∈ r.entries
  names : r.entries.map (·.1) = (insertions.map (·.name)).eraseDups
  mem_entries_iff : ∀ name peripheral, (name, peripheral) ∈ r.entries ↔
    ∃ i, first? insertions name = some i ∧ peripheral = ⟨i.kind, i.descriptor⟩
  insert_eq_error_iff : ∀ name kind descriptor error,
    r.insert name kind descriptor = .error error ↔
      r.contains name = true ∧ error = ⟨name, kind, .duplicate⟩
  attempt_of_contains : ∀ i : Insertion, r.contains i.name = true → r.attempt i = r
  register_of_contains : ∀ name kind descriptor, r.contains name = true →
    (register name kind descriptor).run r = (.error ⟨name, kind, .duplicate⟩, r)

/-- After any insertions, refused or not, the registry is as the first of each name have
made it. -/
theorem insertions_first_come (insertions : List Insertion) :
    (ofInsertions insertions).FirstCome insertions := by
  have filled := filled_ofInsertions insertions
  exact {
    nodup_order := filled.wellFormed.nodup
    perm_names := filled.perm_names
    size_eq := filled.size_eq
    contains_iff := fun _ => filled.contains_iff_exists_entry
    names := by rw [filled.wellFormed.map_fst_entries, filled.order]
    mem_entries_iff := fun _ _ => filled.mem_entries_iff
    insert_eq_error_iff := fun _ _ _ _ => PeripheralRegistry.insert_eq_error_iff
    attempt_of_contains := fun _ => PeripheralRegistry.attempt_of_contains
    register_of_contains := fun _ kind descriptor taken =>
      PeripheralRegistry.register_of_contains taken kind descriptor }

end BoardCompiler.PeripheralRegistry
