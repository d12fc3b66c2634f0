/-
# BoardCompiler.Proofs.Manifest.Decode — settings read from the entries of a table

The entries of a table are read one after another. Where its keys differ and each part of
what is read is decided by one key (`Decides`), that part is what the value of the key is
decoded to, or what it was before if the key is missing (`Decides.setting`). Work that asks
for one key after another decides the part of each (`decides_here`, `decides_later`). The
entries are read if each of them is by itself (`exists_entries`), so what is read is what fits
them (`entries_ok_iff`).
-/
import BoardCompiler.Manifest
import Mathlib.Data.List.Nodup

namespace BoardCompiler

set_option autoImplicit false

open Toml (Key Refusal Value)

/-! ## Entries of a table -/

namespace Toml.Value

variable {name : String} {entry : Key × Value} {entries : List (Key × Value)}

/-- What stands under a key. -/
def lookup (name : String) (entries : List (Key × Value)) : Option Value :=
  (entries.find? fun entry => entry.1.text == name).map (·.2)

theorem lookup_cons_self (here : entry.1.text = name) :
    lookup name (entry :: entries) = some entry.2 := by
  simp [lookup, here]

theorem lookup_cons_of_ne (other : entry.1.text ≠ name) :
    lookup name (entry :: entries) = lookup name entries := by
  simp [lookup, other]

theorem lookup_eq_none (absent : name ∉ entries.map (·.1.text)) : lookup name entries = none := by
  simpa [lookup] using absent

theorem lookup_of_mem (nodup : (entries.map (·.1.text)).Nodup) (member : entry ∈ entries) :
    lookup entry.1.text entries = some entry.2 := by
  induction entries with
  | nil => cases member
  | cons first rest ih =>
      obtain ⟨new, nodup⟩ := List.nodup_cons.mp nodup
      rcases List.mem_cons.mp member with rfl | later
      · exact lookup_cons_self rfl
      · have other : first.1.text ≠ entry.1.text := fun same =>
          new (List.mem_map.mpr ⟨entry, later, same.symm⟩)
        rw [lookup_cons_of_ne other, ih nodup later]

end Toml.Value

namespace Manifest

section Except

variable {α β : Type} {b : β}

theorem bind_eq_ok_iff {x : Except Refusal α} {f : α → Except Refusal β} :
    x >>= f = .ok b ↔ ∃ a, x = .ok a ∧ f a = .ok b := by
  cases x with
  | error r => simp [bind, Except.bind]
  | ok a => simp [bind, Except.bind]

theorem map_eq_ok_iff {x : Except Refusal α} {f : α → β} :
    f <$> x = .ok b ↔ ∃ a, x = .ok a ∧ f a = b := by
  cases x <;> simp

end Except

/-! ## Settings -/

section Setting

variable {α : Type} {means means' : Value → α → Prop} {default a b : α} {held : Option Value}

/-- A setting is as its value says, or as the default if it is missing. -/
def Setting (means : Value → α → Prop) (default : α) : Option Value → α → Prop
  | none, a => a = default
  | some v, a => means v a

theorem setting_congr (same : ∀ v ∈ held, ∀ a, means v a ↔ means' v a) :
    Setting means default held a ↔ Setting means' default held a := by
  cases held with
  | none => exact Iff.rfl
  | some v => exact same v rfl a

theorem Setting.of_mem {name : String} {entry : Key × Value} {entries : List (Key × Value)}
    (setting : Setting means default (Value.lookup name entries) a)
    (nodup : (entries.map (·.1.text)).Nodup) (member : entry ∈ entries)
    (here : entry.1.text = name) : means entry.2 a := by
  rwa [← here, Value.lookup_of_mem nodup member] at setting

theorem Setting.unique {decode : Decoder α} (x : Setting (decode · = .ok ·) default held a)
    (y : Setting (decode · = .ok ·) default held b) : a = b := by
  cases held with
  | none => exact Eq.trans x (Eq.symm y)
  | some v => exact Except.ok.inj (Eq.trans (Eq.symm x) y)

end Setting

/-! ## Entry by entry -/

section Entries

variable {σ β : Type} {work : σ → String → Value → Except Refusal σ} {name : String}
  {part : σ → β} {decode : Decoder β} {a a' : σ} {es : List (Key × Value)}

theorem entries_cons_eq_ok_iff {entry : Key × Value} :
    Decode.entries work a (entry :: es) = .ok a' ↔
      ∃ between, work a entry.1.text entry.2 = .ok between ∧
        Decode.entries work between es = .ok a' := by
  rw [Decode.entries]
  cases work a entry.1.text entry.2 <;> simp

/-- One key decides a part of what is read: it is decoded to that part, and no other key
changes it. -/
structure Decides (work : σ → String → Value → Except Refusal σ) (name : String)
    (part : σ → β) (decode : Decoder β) : Prop where
  own : ∀ {a v a'}, work a name v = .ok a' → decode v = .ok (part a')
  other : ∀ {a n v a'}, n ≠ name → work a n v = .ok a' → part a' = part a

theorem Decides.setting (decides : Decides work name part decode)
    (nodup : (es.map (·.1.text)).Nodup) (read : Decode.entries work a es = .ok a') :
    Setting (decode · = .ok ·) (part a) (Value.lookup name es) (part a') := by
  induction es generalizing a with
  | nil =>
      cases read
      rfl
  | cons entry es ih =>
      obtain ⟨new, nodup⟩ := List.nodup_cons.mp nodup
      obtain ⟨between, worked, read⟩ := entries_cons_eq_ok_iff.mp read
      have later := ih nodup read
      by_cases here : entry.1.text = name
      · -- the key does not come again, so nothing changes what its value has been decoded to
        rw [Value.lookup_eq_none (here ▸ new)] at later
        rw [Value.lookup_cons_self here]
        exact (decides.own (here ▸ worked)).trans (congrArg Except.ok (Eq.symm later))
      · rw [Value.lookup_cons_of_ne here]
        rwa [decides.other here worked] at later

/-- Entries are read if each of them is, whatever has been read before. -/
theorem exists_entries
    (accepts : ∀ entry ∈ es, ∀ a, ∃ a', work a entry.1.text entry.2 = .ok a') (a : σ) :
    ∃ a', Decode.entries work a es = .ok a' := by
  induction es generalizing a with
  | nil => exact ⟨a, rfl⟩
  | cons entry es ih =>
      obtain ⟨first, others⟩ := List.forall_mem_cons.mp accepts
      obtain ⟨between, worked⟩ := first a
      obtain ⟨a', read⟩ := ih others between
      exact ⟨a', entries_cons_eq_ok_iff.mpr ⟨between, worked, read⟩⟩

/-- Entries are read as what alone fits them, if what fits them has each of them read. -/
theorem entries_ok_iff {Fits : σ → Prop}
    (fits : ∀ {a'}, Decode.entries work a es = .ok a' → Fits a')
    (unique : ∀ {a' b'}, Fits a' → Fits b' → a' = b')
    (accepts : ∀ {a'}, Fits a' → ∀ entry ∈ es, ∀ a, ∃ b, work a entry.1.text entry.2 = .ok b) :
    Decode.entries work a es = .ok a' ↔ Fits a' := by
  constructor
  · exact fits
  · intro fit
    obtain ⟨b, read⟩ := exists_entries (accepts fit) a
    rwa [unique fit (fits read)]

end Entries

/-! ## Key by key -/

section Keys

variable {σ α β : Type} {name name' : String} {decode : Decoder α} {decode' : Decoder β}
  {set : σ → α → σ} {part : σ → β} {rest : σ → String → Value → Except Refusal σ}

/-- Work on one key, which decodes its value, before the work on other keys. -/
def onKey (name : String) (decode : Decoder α) (set : σ → α → σ)
    (rest : σ → String → Value → Except Refusal σ) : σ → String → Value → Except Refusal σ :=
  fun a n v => if n = name then set a <$> decode v else rest a n v

/-- Nothing changes the part. -/
def Keeps (work : σ → String → Value → Except Refusal σ) (part : σ → β) : Prop :=
  ∀ ⦃a n v a'⦄, work a n v = .ok a' → part a' = part a

theorem keeps_none : Keeps (fun (a : σ) _ _ => .ok a) part := by
  intro a n v a' worked
  cases worked
  rfl

theorem keeps_onKey (set_part : ∀ a x, part (set a x) = part a) (keeps : Keeps rest part) :
    Keeps (onKey name decode set rest) part := by
  intro a n v a' worked
  unfold onKey at worked
  split_ifs at worked
  · obtain ⟨x, -, rfl⟩ := map_eq_ok_iff.mp worked
    exact set_part a x
  · exact keeps worked

/-- The first key decides what it sets. -/
theorem decides_here
    (decoded : ∀ {a v x}, decode v = .ok x → decode' v = .ok (part (set a x)))
    (keeps : Keeps rest part) : Decides (onKey name decode set rest) name part decode' where
  own worked := by
    unfold onKey at worked
    rw [if_pos rfl] at worked
    obtain ⟨x, own, rfl⟩ := map_eq_ok_iff.mp worked
    exact decoded own
  other := by
    intro a n v a' other worked
    unfold onKey at worked
    rw [if_neg other] at worked
    exact keeps worked

/-- A later key decides what it sets if the first one leaves that alone. -/
theorem decides_later (distinct : name ≠ name') (set_part : ∀ a x, part (set a x) = part a)
    (decides : Decides rest name part decode') :
    Decides (onKey name' decode set rest) name part decode' where
  own worked := by
    unfold onKey at worked
    rw [if_neg distinct] at worked
    exact decides.own worked
  other := by
    intro a n v a' other worked
    unfold onKey at worked
    split_ifs at worked
    · obtain ⟨x, -, rfl⟩ := map_eq_ok_iff.mp worked
      exact set_part a x
    · exact decides.other other worked

theorem exists_onKey {a : σ} {n : String} {v : Value} (here : n = name → ∃ x, decode v = .ok x)
    (elsewhere : ∃ b, rest a n v = .ok b) : ∃ b, onKey name decode set rest a n v = .ok b := by
  unfold onKey
  split_ifs with named
  · obtain ⟨x, decoded⟩ := here named
    exact ⟨set a x, map_eq_ok_iff.mpr ⟨x, decoded, rfl⟩⟩
  · exact elsewhere

end Keys

end Manifest

end BoardCompiler
