/-
# BoardCompiler.Proofs.Json.Decode — compiled boards from their trees

Nothing of a compiled board is lost in its tree: each `ofJson?` takes a tree apart and
gives the value back that the tree was made of (`ofJson?_toJson`), whether a member is a
text, an integer, a truth value or a nested map, and whether the variable is named. No
object of the tree names a member twice (`Json.NoRepeats`) as long as the maps in it are
built by insertion.
-/
import BoardCompiler.Proofs.Compile.Outcome
import BoardCompiler.Proofs.InitMap
import BoardCompiler.Proofs.Json.Spelling

namespace BoardCompiler

set_option autoImplicit false

/-! ## Values from trees -/

def Json.asString? : Json → Option String
  | .string s => some s
  | _ => none

def Json.asArray? : Json → Option (List Json)
  | .array items => some items
  | _ => none

mutual

def InitValue.ofJson? : Json → Option InitValue
  | .string s => some (.text s)
  | .integer n => some (.integer n)
  | .bool b => some (.bool b)
  | .object members => (InitMap.entriesOfJson? members).map fun entries => .nested ⟨entries⟩
  | .null | .array _ => none

def InitMap.entriesOfJson? : List (String × Json) → Option (List (String × InitValue))
  | [] => some []
  | (name, value) :: rest => do
    let value ← InitValue.ofJson? value
    let rest ← InitMap.entriesOfJson? rest
    return (name, value) :: rest

end

def InitMap.ofJson? : Json → Option InitMap
  | .object members => (InitMap.entriesOfJson? members).map fun entries => ⟨entries⟩
  | _ => none

def StructDescriptor.ofJson? (j : Json) : Option StructDescriptor := do
  let structType ← (← j.get? "struct_type").asString?
  let structInit ← InitMap.ofJson? (← j.get? "struct_init")
  return ⟨structType, (j.get? "struct_var").bind Json.asString?, structInit⟩

def Category.ofName? (name : String) : Option Category :=
  [Category.peripheral, .device].find? fun category => category.name == name

def CompiledEntity.ofJson? (j : Json) : Option CompiledEntity := do
  let name ← (← j.get? "name").asString?
  let kind ← (← j.get? "type").asString?
  let category ← Category.ofName? (← (← j.get? "category").asString?)
  let var ← (← j.get? "var").asString?
  let descriptor ← StructDescriptor.ofJson? (← j.get? "descriptor")
  return ⟨name, kind, category, var, descriptor⟩

def CompiledBoard.ofJson? (j : Json) : Option CompiledBoard := do
  let includes ← (← (← j.get? "includes").asArray?).mapM Json.asString?
  let peripherals ← (← (← j.get? "peripherals").asArray?).mapM CompiledEntity.ofJson?
  let devices ← (← (← j.get? "devices").asArray?).mapM CompiledEntity.ofJson?
  return ⟨includes, peripherals, devices⟩

mutual

theorem InitValue.ofJson?_toJson :
    ∀ value : InitValue, InitValue.ofJson? value.toJson = some value
  | .text _ => rfl
  | .integer _ => rfl
  | .bool _ => rfl
  | .nested ⟨entries⟩ => by
      have members := InitMap.entriesOfJson?_entriesToJson entries
      simp [InitValue.toJson, InitMap.toJson, InitValue.ofJson?, members]

theorem InitMap.entriesOfJson?_entriesToJson : ∀ entries : List (String × InitValue),
    InitMap.entriesOfJson? (InitMap.entriesToJson entries) = some entries
  | [] => rfl
  | (name, value) :: rest => by
      have first := InitValue.ofJson?_toJson value
      have others := InitMap.entriesOfJson?_entriesToJson rest
      simp [InitMap.entriesToJson, InitMap.entriesOfJson?, first, others]

end

theorem InitMap.ofJson?_toJson (m : InitMap) : ofJson? m.toJson = some m := by
  obtain ⟨entries⟩ := m
  have members := entriesOfJson?_entriesToJson entries
  simp [toJson, ofJson?, members]

theorem StructDescriptor.ofJson?_toJson (d : StructDescriptor) : ofJson? d.toJson = some d := by
  obtain ⟨structType, structVar, structInit⟩ := d
  cases structVar <;>
    simp [toJson, ofJson?, Json.get?, Json.asString?, InitMap.ofJson?_toJson]

theorem CompiledEntity.ofJson?_toJson (e : CompiledEntity) : ofJson? e.toJson = some e := by
  have category : Category.ofName? e.category.name = some e.category := by
    cases e.category <;> decide
  simp [toJson, ofJson?, Json.get?, Json.asString?, category, StructDescriptor.ofJson?_toJson]

/-- Decoding a list item by item gives back what each item was made of. -/
theorem mapM_map_of_forall {α : Type} {decode : Json → Option α} {encode : α → Json}
    (back : ∀ x, decode (encode x) = some x) (xs : List α) :
    (xs.map encode).mapM decode = some xs := by
  induction xs with
  | nil => rfl
  | cons x rest ih => simp [back x, ih]

theorem CompiledBoard.ofJson?_toJson (b : CompiledBoard) : ofJson? b.toJson = some b := by
  have text : ∀ s, Json.asString? (.string s) = some s := fun _ => rfl
  have includes := mapM_map_of_forall text b.includes
  have peripherals := mapM_map_of_forall CompiledEntity.ofJson?_toJson b.peripherals
  have devices := mapM_map_of_forall CompiledEntity.ofJson?_toJson b.devices
  simp [toJson, ofJson?, Json.get?, Json.asArray?, includes, peripherals, devices]

/-! ## No name twice -/

theorem InitMap.entriesToJson_eq_map (entries : List (String × InitValue)) :
    entriesToJson entries = entries.map fun entry => (entry.1, entry.2.toJson) := by
  induction entries with
  | nil => rfl
  | cons entry rest ih => rw [entriesToJson, ih, List.map_cons]

theorem InitMap.noRepeats_toJson_iff (m : InitMap) :
    m.toJson.NoRepeats ↔ m.keys.Nodup ∧ ∀ entry ∈ m.entries, entry.2.toJson.NoRepeats := by
  obtain ⟨entries⟩ := m
  rw [toJson, Json.NoRepeats, Json.noRepeatsMembers_iff, entriesToJson_eq_map]
  simp only [keys, List.map_map, List.forall_mem_map, Function.comp_def]

mutual

theorem InitValue.Built.noRepeats : ∀ {value : InitValue}, value.Built → value.toJson.NoRepeats
  | _, .text _ => trivial
  | _, .integer _ => trivial
  | _, .bool _ => trivial
  | _, .nested built => by
      rw [InitValue.toJson]
      exact built.noRepeats

theorem InitMap.Built.noRepeats : ∀ {m : InitMap}, m.Built → m.toJson.NoRepeats
  | _, .empty => (InitMap.noRepeats_toJson_iff _).mpr (by simp [InitMap.empty, InitMap.keys])
  | _, .insert key built value => by
      obtain ⟨nodup, old⟩ := (InitMap.noRepeats_toJson_iff _).mp built.noRepeats
      refine (InitMap.noRepeats_toJson_iff _).mpr ⟨InitMap.nodup_keys_insert nodup key _, ?_⟩
      intro entry member
      rcases InitMap.mem_insertEntry member with rfl | before
      · exact value.noRepeats
      · exact old entry before

end

theorem StructDescriptor.noRepeats_toJson {d : StructDescriptor} (built : d.structInit.Built) :
    d.toJson.NoRepeats := by
  have members := built.noRepeats
  obtain ⟨structType, structVar, structInit⟩ := d
  cases structVar <;> simp [toJson, Json.NoRepeats, Json.NoRepeatsMembers, members]

theorem CompiledEntity.noRepeats_toJson {e : CompiledEntity}
    (built : e.descriptor.structInit.Built) : e.toJson.NoRepeats := by
  have descriptor := StructDescriptor.noRepeats_toJson built
  simp [toJson, Json.NoRepeats, Json.NoRepeatsMembers, descriptor]

theorem CompiledBoard.noRepeats_toJson {b : CompiledBoard}
    (built : ∀ e ∈ b.entities, e.descriptor.structInit.Built) : b.toJson.NoRepeats := by
  have entity := fun e member => CompiledEntity.noRepeats_toJson (built e member)
  simp only [entities, List.mem_append] at entity
  simp [toJson, Json.NoRepeats, Json.NoRepeatsMembers, Json.noRepeatsItems_iff]
  exact ⟨fun e member => entity e (.inl member), fun e member => entity e (.inr member)⟩

/-- A board compiled by parsers that build their maps has built maps only. -/
theorem Board.built_of_compile {board : Board} {parsers : ParserRegistry} {mode : Mode}
    {out : CompiledBoard} (builds : parsers.BuildsMaps)
    (compiles : (board.compile parsers mode).outcome = .ok out) :
    ∀ e ∈ out.entities, e.descriptor.structInit.Built := by
  have compiled := compiles_of_ok compiles
  intro e member
  rcases Board.mem_entities_cases compiled member with ⟨source, -, made⟩ | ⟨source, -, made⟩
  · obtain ⟨parser, get, parsed⟩ := made.peripheral_parser
    exact builds.peripherals get parsed
  · obtain ⟨parser, get, parsed⟩ := made.device_parser
    exact builds.devices get parsed

end BoardCompiler
