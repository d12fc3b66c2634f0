/-
# BoardCompiler.Proofs.PeripheralRegistry — table and order stay together

Registering a peripheral adds it under a new name, and under a name that is taken it
is refused and nothing is done to the registry (`run_register`).

The names in the order of a registry are those of its table, each once
(`WellFormed`). Adding a peripheral under a new name keeps that, and puts one
entry behind those that are there (`entries_add`): nothing is lost, replaced or
moved on the way through the table. So a registry filled from a list of different
names reads back as that list (`entries_ofList`).
-/
import BoardCompiler.Peripheral.Registry
import BoardCompiler.Proofs.SortedTable
import Mathlib.Data.List.Nodup

namespace BoardCompiler.PeripheralRegistry

set_option autoImplicit false

/-- A name stands in the order exactly if the table has it, and once. -/
structure WellFormed (r : PeripheralRegistry) : Prop where
  nodup : r.order.Nodup
  mem_order_iff : ∀ name, name ∈ r.order ↔ r.contains name = true

theorem wellFormed_empty : empty.WellFormed :=
  ⟨List.nodup_nil, fun name => by simp [empty, contains]⟩

/-! ## One peripheral more -/

section Add

variable {r : PeripheralRegistry} {name : String}

theorem contains_add_iff (peripheral : RegisteredPeripheral) (other : String) :
    (r.add name peripheral).contains other = true ↔ other = name ∨ r.contains other = true :=
  r.table.contains_insert_iff name other peripheral

theorem WellFormed.add (wf : r.WellFormed) (fresh : r.contains name = false)
    (peripheral : RegisteredPeripheral) : (r.add name peripheral).WellFormed := by
  constructor
  · have absent : name ∉ r.order := by simp [wf.mem_order_iff, fresh]
    refine List.nodup_append.mpr ⟨wf.nodup, List.nodup_singleton name, ?_⟩
    rintro other member last single rfl
    exact absent (List.mem_singleton.mp single ▸ member)
  · intro other
    rw [contains_add_iff, ← wf.mem_order_iff]
    simp [PeripheralRegistry.add, or_comm]

theorem WellFormed.entries_add (wf : r.WellFormed) (fresh : r.contains name = false)
    (peripheral : RegisteredPeripheral) :
    (r.add name peripheral).entries = r.entries ++ [(name, peripheral)] := by
  have absent : name ∉ r.order := by simp [wf.mem_order_iff, fresh]
  have before : ∀ other ∈ r.order,
      ((r.table.insert name peripheral).get? other).map (fun p => (other, p)) =
        (r.table.get? other).map fun p => (other, p) := by
    intro other member
    have ne : other ≠ name := fun same => absent (same ▸ member)
    rw [SortedTable.get?_insert_of_ne _ ne]
  simp only [entries, PeripheralRegistry.add, List.filterMap_append, List.filterMap_congr before]
  simp

theorem WellFormed.map_fst_entries (wf : r.WellFormed) : r.entries.map (·.1) = r.order := by
  have present : ∀ other ∈ r.order, (r.table.get? other).isSome := fun other member =>
    (wf.mem_order_iff other).mp member
  rw [entries, List.map_filterMap]
  refine (List.filterMap_congr fun other member => ?_).trans List.filterMap_some
  obtain ⟨peripheral, found⟩ := Option.isSome_iff_exists.mp (present other member)
  simp [found]

end Add

/-! ## Insertion -/

theorem run_get_bind {ε α σ : Type} (f : σ → ExceptT ε (StateM σ) α) (s : σ) :
    (get >>= f).run s = (f s).run s := rfl

/-- A name that is taken is refused, and the registry stays as it was. -/
theorem run_register (r : PeripheralRegistry) (name kind : String)
    (descriptor : StructDescriptor) :
    (register name kind descriptor).run r =
      if r.contains name then (.error ⟨name, kind, .duplicate⟩, r)
      else (.ok (), r.add name ⟨kind, descriptor⟩) := by
  rw [register, run_get_bind]
  cases r.contains name with
  | true => rfl
  | false => rfl

theorem insert_eq (r : PeripheralRegistry) (name kind : String) (descriptor : StructDescriptor) :
    r.insert name kind descriptor =
      if r.contains name then .error ⟨name, kind, .duplicate⟩
      else .ok (r.add name ⟨kind, descriptor⟩) := by
  rw [insert, run_register]
  cases r.contains name with
  | true => rfl
  | false => rfl

theorem insert_eq_ok_iff {r r' : PeripheralRegistry} {name kind : String}
    {descriptor : StructDescriptor} :
    r.insert name kind descriptor = .ok r' ↔
      r.contains name = false ∧ r' = r.add name ⟨kind, descriptor⟩ := by
  cases taken : r.contains name <;> simp [insert_eq, taken, eq_comm]

theorem insert_of_contains {r : PeripheralRegistry} {name : String}
    (taken : r.contains name = true) (kind : String) (descriptor : StructDescriptor) :
    r.insert name kind descriptor = .error ⟨name, kind, .duplicate⟩ := by
  rw [insert_eq, if_pos taken]

/-! ## Many peripherals -/

/-- The registry with peripherals under names that are new to it. -/
def addAll (r : PeripheralRegistry) (pairs : List (String × RegisteredPeripheral)) :
    PeripheralRegistry :=
  pairs.foldl (fun r pair => r.add pair.1 pair.2) r

def ofList (pairs : List (String × RegisteredPeripheral)) : PeripheralRegistry :=
  empty.addAll pairs

theorem contains_addAll_iff (pairs : List (String × RegisteredPeripheral)) (name : String) :
    ∀ r : PeripheralRegistry, (r.addAll pairs).contains name = true ↔
      r.contains name = true ∨ name ∈ pairs.map (·.1) := by
  induction pairs with
  | nil => simp [addAll]
  | cons pair rest ih =>
      intro r
      have step := ih (r.add pair.1 pair.2)
      rw [contains_add_iff] at step
      simp only [addAll, List.foldl_cons, List.map_cons, List.mem_cons] at step ⊢
      rw [step]
      tauto

theorem contains_ofList_iff (pairs : List (String × RegisteredPeripheral)) (name : String) :
    (ofList pairs).contains name = true ↔ name ∈ pairs.map (·.1) := by
  rw [ofList, contains_addAll_iff]
  simp [empty, contains]

/-- Peripherals under different new names stand behind those that were there, in
their order. -/
theorem WellFormed.addAll {pairs : List (String × RegisteredPeripheral)} :
    ∀ {r : PeripheralRegistry}, r.WellFormed → (pairs.map (·.1)).Nodup →
      (∀ name ∈ pairs.map (·.1), r.contains name = false) →
      (r.addAll pairs).WellFormed ∧ (r.addAll pairs).entries = r.entries ++ pairs := by
  induction pairs with
  | nil => intro r wf _ _; exact ⟨wf, by simp [PeripheralRegistry.addAll]⟩
  | cons pair rest ih =>
      intro r wf nodup fresh
      obtain ⟨name, peripheral⟩ := pair
      simp only [List.map_cons, List.nodup_cons] at nodup
      have new : r.contains name = false := fresh name (by simp)
      have freshRest : ∀ other ∈ rest.map (·.1), (r.add name peripheral).contains other = false := by
        intro other member
        have ne : other ≠ name := fun same => nodup.1 (same ▸ member)
        have old : r.contains other = false := fresh other (List.mem_cons_of_mem _ member)
        rw [← Bool.not_eq_true, contains_add_iff]
        simp [ne, old]
      obtain ⟨wfAll, entriesAll⟩ := ih (wf.add new peripheral) nodup.2 freshRest
      refine ⟨wfAll, entriesAll.trans ?_⟩
      rw [wf.entries_add new, List.append_assoc, List.singleton_append]

theorem entries_ofList {pairs : List (String × RegisteredPeripheral)}
    (nodup : (pairs.map (·.1)).Nodup) : (ofList pairs).entries = pairs :=
  (wellFormed_empty.addAll nodup fun _ _ => rfl).2

end BoardCompiler.PeripheralRegistry
