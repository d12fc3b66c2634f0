/-
# BoardCompiler.Proofs.InitMap.Insertions — first places, last values

A map made by insertions into the empty one has the names in the order in which they are
first inserted (`keys_ofList`) and, under each, the value that is inserted last
(`get?_ofList`). Names are unique in it, so its names and what it holds under each of them
are the whole map (`ext_of_get?`). Together that says what any insertions leave, and which
lists of insertions leave the same map (`insertions_first_place_last_value`).
-/
import BoardCompiler.Proofs.FirstOccurrences
import BoardCompiler.Proofs.InitMap
import Mathlib.Data.Finset.Card
import Mathlib.Data.List.Induction

namespace BoardCompiler.InitMap

set_option autoImplicit false

variable {m m' : InitMap}

/-! ## One insertion -/

theorem find?_insertEntry (key other : String) (value : InitValue)
    (entries : List (String × InitValue)) :
    (insertEntry key value entries).find? (fun entry => entry.1 == other) =
      if key = other then some (key, value) else entries.find? fun entry => entry.1 == other := by
  induction entries with
  | nil => by_cases same : key = other <;> simp [insertEntry, same]
  | cons entry rest ih =>
      obtain ⟨name, held⟩ := entry
      rw [insertEntry]
      by_cases here : name = key
      · subst here
        by_cases same : name = other <;> simp [same]
      · rw [if_neg here]
        by_cases hit : name = other
        · have ne : key ≠ other := fun same => here (hit.trans same.symm)
          simp [hit, ne]
        · rw [List.find?_cons_of_neg (by simpa using hit), ih,
            List.find?_cons_of_neg (by simpa using hit)]

theorem get?_insert (m : InitMap) (key other : String) (value : InitValue) :
    (m.insert key value).get? other = if key = other then some value else m.get? other := by
  rw [get?, insert, find?_insertEntry]
  by_cases same : key = other <;> simp [same, get?]

/-- An insertion under a name that is there changes the entry of that name in its place, and
no other. -/
theorem insertEntry_of_mem {key : String} {entries : List (String × InitValue)}
    (once : (entries.map (·.1)).Nodup) (known : key ∈ entries.map (·.1)) (value : InitValue) :
    insertEntry key value entries =
      entries.map fun entry => if entry.1 = key then (key, value) else entry := by
  induction entries with
  | nil => cases known
  | cons entry rest ih =>
      obtain ⟨new, once⟩ := List.nodup_cons.mp once
      rw [insertEntry, List.map_cons]
      by_cases here : entry.1 = key
      · have kept : rest.map (fun entry => if entry.1 = key then (key, value) else entry) = rest := by
          refine (List.map_congr_left fun other member => ?_).trans (List.map_id rest)
          have ne : other.1 ≠ key := fun same =>
            new (List.mem_map.mpr ⟨other, member, same.trans here.symm⟩)
          exact if_neg ne
        rw [if_pos here, if_pos here, kept, here]
      · have later : key ∈ rest.map (·.1) := by simpa [Ne.symm here] using known
        rw [if_neg here, if_neg here, ih once later]

theorem entries_insert_of_mem {key : String} (once : m.keys.Nodup) (known : key ∈ m.keys)
    (value : InitValue) :
    (m.insert key value).entries =
      m.entries.map fun entry => if entry.1 = key then (key, value) else entry :=
  insertEntry_of_mem once known value

/-! ## Names and values are the map -/

theorem eq_iff_entries_eq : m = m' ↔ m.entries = m'.entries := by
  cases m
  cases m'
  simp

/-- Where names are unique, the entries are the names with what is held under them. -/
theorem entries_eq_filterMap_keys (once : m.keys.Nodup) :
    m.entries = m.keys.filterMap fun key => (m.get? key).map fun value => (key, value) := by
  obtain ⟨entries⟩ := m
  induction entries with
  | nil => rfl
  | cons entry rest ih =>
      obtain ⟨new, once⟩ := List.nodup_cons.mp once
      have others : ∀ key ∈ rest.map (·.1), get? ⟨entry :: rest⟩ key = get? ⟨rest⟩ key := by
        rintro key member
        have ne : entry.1 ≠ key := by
          rintro rfl
          exact new member
        simp [get?, ne]
      have first : get? ⟨entry :: rest⟩ entry.1 = some entry.2 := by simp [get?]
      rw [keys, List.map_cons, List.filterMap_cons, first]
      exact congrArg (entry :: ·) ((ih once).trans
        (List.filterMap_congr fun key member => by rw [others key member]))

theorem ext_of_get? (once : m.keys.Nodup) (keys : m.keys = m'.keys)
    (get : ∀ key, m.get? key = m'.get? key) : m = m' := by
  rw [eq_iff_entries_eq, entries_eq_filterMap_keys once, entries_eq_filterMap_keys (keys ▸ once),
    keys]
  simp only [get]

/-! ## Many insertions -/

variable {pairs others : List (String × InitValue)}

/-- The value that is inserted last under a name. -/
def last? (pairs : List (String × InitValue)) (key : String) : Option InitValue :=
  (pairs.reverse.find? fun pair => pair.1 == key).map (·.2)

theorem ofList_concat (pairs : List (String × InitValue)) (pair : String × InitValue) :
    ofList (pairs ++ [pair]) = (ofList pairs).insert pair.1 pair.2 := by
  rw [ofList, List.foldl_append]
  rfl

theorem keys_ofList (pairs : List (String × InitValue)) :
    (ofList pairs).keys = (pairs.map (·.1)).eraseDups := by
  induction pairs using List.reverseRecOn with
  | nil => rfl
  | append_singleton earlier pair ih =>
      rw [ofList_concat, keys_insert, ih, List.map_append, List.map_singleton, eraseDups_concat]
      simp only [List.mem_eraseDups]

theorem nodup_keys_ofList (pairs : List (String × InitValue)) : (ofList pairs).keys.Nodup := by
  rw [keys_ofList]
  exact nodup_eraseDups _

theorem get?_ofList (pairs : List (String × InitValue)) (key : String) :
    (ofList pairs).get? key = last? pairs key := by
  induction pairs using List.reverseRecOn with
  | nil => rfl
  | append_singleton earlier pair ih =>
      rw [ofList_concat, get?_insert, ih]
      by_cases same : pair.1 = key <;> simp [last?, same]

theorem size_ofList (pairs : List (String × InitValue)) :
    (ofList pairs).size = (pairs.map (·.1)).toFinset.card := by
  have same : (ofList pairs).keys.toFinset = (pairs.map (·.1)).toFinset := by
    ext key
    simp [keys_ofList]
  rw [← same, List.toFinset_card_of_nodup (nodup_keys_ofList pairs), keys, List.length_map, size]

/-- Insertions leave the same map exactly if they bring the names in the same order and the
same value last under each. -/
theorem ofList_eq_iff :
    ofList pairs = ofList others ↔
      (pairs.map (·.1)).eraseDups = (others.map (·.1)).eraseDups ∧
        ∀ key, last? pairs key = last? others key := by
  simp only [← keys_ofList, ← get?_ofList]
  constructor
  · intro same
    simp [same]
  · rintro ⟨keys, get⟩
    exact ext_of_get? (nodup_keys_ofList pairs) keys get

/-- Any insertions leave the distinct names in the order in which they are first inserted,
each with the value inserted last. Inserting under one of them once more changes its value
and nothing else. Two such maps are equal exactly if they have the same entries in the same
order, which is to say the same names in the same order and the same value under each. -/
theorem insertions_first_place_last_value (pairs : List (String × InitValue)) :
    (ofList pairs).keys = (pairs.map (·.1)).eraseDups ∧
    (ofList pairs).keys.Nodup ∧
    (∀ key, (ofList pairs).get? key = last? pairs key) ∧
    (ofList pairs).size = (pairs.map (·.1)).toFinset.card ∧
    (∀ key value, key ∈ pairs.map (·.1) →
      ((ofList pairs).insert key value).entries =
        (ofList pairs).entries.map fun entry => if entry.1 = key then (key, value) else entry) ∧
    ∀ others,
      (ofList pairs = ofList others ↔ (ofList pairs).entries = (ofList others).entries) ∧
      (ofList pairs = ofList others ↔
        (pairs.map (·.1)).eraseDups = (others.map (·.1)).eraseDups ∧
          ∀ key, last? pairs key = last? others key) := by
  have once := nodup_keys_ofList pairs
  refine ⟨keys_ofList pairs, once, get?_ofList pairs, size_ofList pairs, ?_, fun others =>
    ⟨eq_iff_entries_eq, ofList_eq_iff⟩⟩
  intro key value inserted
  have known : key ∈ (ofList pairs).keys := by
    rw [keys_ofList]
    exact List.mem_eraseDups.mpr inserted
  exact entries_insert_of_mem once known value

end BoardCompiler.InitMap
