/-
# BoardCompiler.Proofs.InitMap — initializer maps made by insertion

An insertion keeps the names of a map and adds its own behind them if it is new
(`keys_insert`), so names stay unique (`nodup_keys_insert`). A map is `Built` if
insertions into the empty map give it and its values are made the same way; the
descriptors of all built-in types are.
-/
import BoardCompiler.Proofs.Builtin
import Mathlib.Data.List.Nodup

namespace BoardCompiler

set_option autoImplicit false

namespace InitMap

theorem map_fst_insertEntry (key : String) (value : InitValue)
    (entries : List (String × InitValue)) :
    (insertEntry key value entries).map (·.1) =
      if key ∈ entries.map (·.1) then entries.map (·.1) else entries.map (·.1) ++ [key] := by
  induction entries with
  | nil => simp [insertEntry]
  | cons entry rest ih =>
      by_cases same : entry.1 = key
      · simp [insertEntry, same]
      · have other : ¬ key = entry.1 := fun eq => same eq.symm
        rw [insertEntry, if_neg same, List.map_cons, ih]
        by_cases later : key ∈ rest.map (·.1) <;> simp [other, later]

theorem keys_insert (m : InitMap) (key : String) (value : InitValue) :
    (m.insert key value).keys = if key ∈ m.keys then m.keys else m.keys ++ [key] :=
  map_fst_insertEntry key value m.entries

theorem nodup_keys_insert {m : InitMap} (nodup : m.keys.Nodup) (key : String) (value : InitValue) :
    (m.insert key value).keys.Nodup := by
  rw [keys_insert]
  split_ifs with known
  · exact nodup
  · have apart : m.keys.Disjoint [key] := List.disjoint_singleton.mpr known
    exact nodup.append (List.nodup_singleton key) apart

/-- An entry after an insertion is the one inserted or was there before. -/
theorem mem_insertEntry {key : String} {value : InitValue} {entries : List (String × InitValue)}
    {entry : String × InitValue} (member : entry ∈ insertEntry key value entries) :
    entry = (key, value) ∨ entry ∈ entries := by
  induction entries with
  | nil => exact .inl (by simpa [insertEntry] using member)
  | cons head rest ih =>
      rw [insertEntry] at member
      split_ifs at member with same
      · rcases List.mem_cons.mp member with new | old
        · exact .inl (by rw [new, same])
        · exact .inr (List.mem_cons_of_mem head old)
      · rcases List.mem_cons.mp member with first | later
        · exact .inr (first ▸ List.mem_cons_self)
        · exact (ih later).imp_right (List.mem_cons_of_mem head)

end InitMap

/-! ## Built maps -/

mutual

inductive InitValue.Built : InitValue → Prop where
  | text (s : String) : InitValue.Built (.text s)
  | integer (n : Int) : InitValue.Built (.integer n)
  | bool (b : Bool) : InitValue.Built (.bool b)
  | nested {m : InitMap} : InitMap.Built m → InitValue.Built (.nested m)

/-- Insertions of built values into the empty map give the map. -/
inductive InitMap.Built : InitMap → Prop where
  | empty : InitMap.Built .empty
  | insert {m : InitMap} {value : InitValue} (key : String) :
      InitMap.Built m → InitValue.Built value → InitMap.Built (m.insert key value)

end

theorem InitMap.Built.insertAll {pairs : List (String × InitValue)}
    (values : ∀ pair ∈ pairs, pair.2.Built) : ∀ {m : InitMap}, m.Built →
      (pairs.foldl (fun m pair => m.insert pair.1 pair.2) m).Built := by
  induction pairs with
  | nil => exact id
  | cons pair rest ih =>
      intro m built
      have head := values pair (by simp)
      exact ih (fun p member => values p (List.mem_cons_of_mem pair member))
        (.insert pair.1 built head)

theorem InitMap.built_ofList {pairs : List (String × InitValue)}
    (values : ∀ pair ∈ pairs, pair.2.Built) : (InitMap.ofList pairs).Built :=
  .insertAll values .empty

/-- The parsers of the registry initialize structures from built maps only. -/
structure ParserRegistry.BuildsMaps (parsers : ParserRegistry) : Prop where
  peripherals : ∀ {tag parser name raw descriptor}, parsers.peripherals.get? tag = some parser →
    (parser.parse name raw).outcome = .ok descriptor → descriptor.structInit.Built
  devices : ∀ {tag parser name raw lookup descriptor}, parsers.devices.get? tag = some parser →
    (parser.parse name raw lookup).outcome = .ok descriptor → descriptor.structInit.Built

namespace Builtin

theorem built_gpio (s : Gpio.Settings) : (Gpio.descriptor s).structInit.Built :=
  InitMap.built_ofList (by simp [InitValue.Built.text])

theorem built_ldo (s : Ldo.Settings) : (Ldo.descriptor s).structInit.Built :=
  InitMap.built_ofList (by
    simp [InitValue.Built.integer, InitValue.Built.nested, InitMap.built_ofList])

theorem built_ledc (s : Ledc.Settings) : (Ledc.descriptor s).structInit.Built :=
  InitMap.built_ofList (by
    simp [InitValue.Built.text, InitValue.Built.integer, InitValue.Built.nested,
      InitMap.built_ofList])

theorem built_sdm (s : Sdm.Settings) : (Sdm.descriptor s).structInit.Built :=
  InitMap.built_ofList (by
    simp [InitValue.Built.text, InitValue.Built.integer, InitValue.Built.bool,
      InitValue.Built.nested, InitMap.built_ofList])

theorem built_gpioCtrl (name reference : String) (s : GpioCtrl.Settings) :
    (GpioCtrl.descriptor name reference s).structInit.Built :=
  InitMap.built_ofList (by simp [Device.header, InitValue.Built.text, InitValue.Built.integer])

theorem built_ledcCtrl (name reference : String) (s : LedcCtrl.Settings) :
    (LedcCtrl.descriptor name reference s).structInit.Built :=
  InitMap.built_ofList (by simp [Device.header, InitValue.Built.text, InitValue.Built.integer])

theorem buildsMaps : parsers.BuildsMaps where
  peripherals found parsed := by
    rcases peripheral_cases found with ⟨-, rfl⟩ | ⟨-, rfl⟩ | ⟨-, rfl⟩ | ⟨-, rfl⟩ <;>
      obtain ⟨settings, -, rfl⟩ := PeripheralParser.ofReader_ok_iff.mp parsed
    · exact built_gpio settings
    · exact built_ldo settings
    · exact built_ledc settings
    · exact built_sdm settings
  devices {_ _ name _ _ _} found parsed := by
    rcases device_cases found with ⟨-, rfl⟩ | ⟨-, rfl⟩ <;>
      obtain ⟨reference, settings, -, -, rfl⟩ := DeviceParser.ofReader_ok_iff.mp parsed
    · exact built_gpioCtrl name reference settings
    · exact built_ledcCtrl name reference settings

end Builtin

end BoardCompiler
