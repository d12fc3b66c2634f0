/-
# BoardCompiler.Proofs.CheckReport — what a check prints for a board

A check that succeeds prints a piece of text for each entity, peripherals first and
in the order of the declarations, then an empty line, and then the counts. Each piece
shows the name, the type and the struct of its entity (`ShownBy`). The types and
structs of the built-in types have no newline, so a piece has those of the entity's
name and no more (`newlines_checkLine`), and there is one line for each entity exactly
if no name has a newline in it (`oneLinePerEntity_iff`). Nothing keeps a name from
having one: `brokenName_lines` is a board with such a name.
-/
import BoardCompiler.Files.Disk
import BoardCompiler.Proofs.Builtin
import BoardCompiler.Proofs.Commands
import BoardCompiler.Proofs.Compile.Outcome
import BoardCompiler.Proofs.Text.Lines

namespace BoardCompiler

set_option autoImplicit false

open Text (Within column newlines newlines_eq_zero_iff)

/-! ## Types and structs -/

namespace Builtin

variable {tag name : String} {raw : RawConfig} {descriptor : StructDescriptor}

/-- The built-in types, each with the struct that its entities initialize. -/
def structs : List (String × String) :=
  [("gpio", "gpio_config_t"), ("ldo", "esp_ldo_channel_config_t"),
   ("ledc", "ledc_channel_config_t"), ("sdm", "sdm_config_t"),
   ("gpio_ctrl", "dev_gpio_ctrl_config_t"), ("ledc_ctrl", "dev_ledc_ctrl_config_t")]

theorem mem_structs_of_peripheral {parser : PeripheralParser}
    (found : parsers.peripherals.get? tag = some parser)
    (parsed : (parser.parse name raw).outcome = .ok descriptor) :
    (tag, descriptor.structType) ∈ structs := by
  rcases peripheral_cases found with ⟨rfl, rfl⟩ | ⟨rfl, rfl⟩ | ⟨rfl, rfl⟩ | ⟨rfl, rfl⟩ <;>
    obtain ⟨settings, -, rfl⟩ := PeripheralParser.ofReader_ok_iff.mp parsed
  · simp [structs, Gpio.descriptor, StructDescriptor.of]
  · simp [structs, Ldo.descriptor, StructDescriptor.of]
  · simp [structs, Ledc.descriptor, StructDescriptor.of]
  · simp [structs, Sdm.descriptor, StructDescriptor.of]

theorem mem_structs_of_device {parser : DeviceParser} {lookup : Option PeripheralRegistry}
    (found : parsers.devices.get? tag = some parser)
    (parsed : (parser.parse name raw lookup).outcome = .ok descriptor) :
    (tag, descriptor.structType) ∈ structs := by
  rcases device_cases found with ⟨rfl, rfl⟩ | ⟨rfl, rfl⟩ <;>
    obtain ⟨ref, settings, -, -, rfl⟩ := DeviceParser.ofReader_ok_iff.mp parsed
  · simp [structs, GpioCtrl.descriptor, StructDescriptor.of]
  · simp [structs, LedcCtrl.descriptor, StructDescriptor.of]

theorem newlines_structs : ∀ entry ∈ structs, newlines entry.1 = 0 ∧ newlines entry.2 = 0 := by
  decide

end Builtin

/-! ## The piece of an entity -/

/-- A text shows an entity: its whole name, its type and its struct. -/
structure ShownBy (e : CompiledEntity) (text : String) : Prop where
  name : Within e.name text
  kind : Within e.kind text
  structType : Within e.descriptor.structType text

namespace CompiledEntity

theorem shownBy_checkLine (e : CompiledEntity) : ShownBy e e.checkLine := by
  obtain ⟨afterName, name⟩ := Text.column_eq_append 24 e.name
  obtain ⟨afterKind, kind⟩ := Text.column_eq_append 12 e.kind
  refine ⟨?_, ?_, ?_⟩
  · refine ⟨"  " ++ column 10 e.category.name ++ " ",
      afterName ++ " " ++ column 12 e.kind ++ " " ++ e.descriptor.structType, ?_⟩
    simp only [checkLine, name, String.append_assoc]
  · refine ⟨"  " ++ column 10 e.category.name ++ " " ++ column 24 e.name ++ " ",
      afterKind ++ " " ++ e.descriptor.structType, ?_⟩
    simp only [checkLine, kind, String.append_assoc]
  · refine ⟨"  " ++ column 10 e.category.name ++ " " ++ column 24 e.name ++ " " ++
      column 12 e.kind ++ " ", "", ?_⟩
    rw [String.append_empty]
    rfl

theorem newlines_checkLine {e : CompiledEntity}
    (builtin : (e.kind, e.descriptor.structType) ∈ Builtin.structs) :
    newlines e.checkLine = newlines e.name := by
  obtain ⟨kind, structType⟩ := Builtin.newlines_structs _ builtin
  have category : newlines e.category.name = 0 := by cases e.category <;> rfl
  have blank : newlines " " = 0 := rfl
  have indent : newlines "  " = 0 := rfl
  simp only [checkLine, Text.newlines_append, Text.newlines_column, kind, structType, category,
    blank, indent]
  omega

end CompiledEntity

/-! ## The whole report -/

/-- The last line of a check that found so many peripherals and devices. -/
def summaryLine (peripherals devices : Nat) (references : Bool) : String :=
  "ok: " ++ toString peripherals ++ " peripheral(s), " ++ toString devices ++ " device(s)" ++
    if references then "" else " (references not checked)"

theorem newlines_summaryLine (peripherals devices : Nat) (references : Bool) :
    newlines (summaryLine peripherals devices references) = 0 := by
  have ok : newlines "ok: " = 0 := by decide
  have first : newlines " peripheral(s), " = 0 := by decide
  have second : newlines " device(s)" = 0 := by decide
  have remark : newlines (if references then "" else " (references not checked)") = 0 := by
    cases references <;> decide
  simp only [summaryLine, Text.newlines_append, Text.newlines_toString, ok, first, second, remark]

/-- What follows the pieces of the entities: an empty line, and as many peripherals and
devices as there are pieces of each. -/
def closing (peripherals devices : List String) (references : Bool) : List String :=
  ["", summaryLine peripherals.length devices.length references]

/-- A text has a piece for each entity, peripherals first, and the closing lines. -/
structure Itemizes (out : CompiledBoard) (references : Bool) (text : String)
    (peripherals devices : List String) : Prop where
  text_eq : text = Text.unlines (peripherals ++ devices ++ closing peripherals devices references)
  peripherals : List.Forall₂ ShownBy out.peripherals peripherals
  devices : List.Forall₂ ShownBy out.devices devices

/-- The pieces are lines. -/
def OneLinePerEntity (out : CompiledBoard) (references : Bool) (text : String) : Prop :=
  ∃ peripherals devices, Itemizes out references text peripherals devices ∧
    Text.Lines text (peripherals ++ devices ++ closing peripherals devices references)

namespace CompiledBoard

theorem checkSummary_eq (out : CompiledBoard) (references : Bool) :
    out.checkSummary references =
      summaryLine out.peripherals.length out.devices.length references := by
  simp only [checkSummary, counts, summaryLine, String.append_assoc]

theorem itemizes_checkReport (out : CompiledBoard) (references : Bool) :
    Itemizes out references (Text.unlines (out.checkReport references))
      (out.peripherals.map CompiledEntity.checkLine) (out.devices.map CompiledEntity.checkLine) where
  text_eq := by
    rw [checkReport, entities, List.map_append, checkSummary_eq, closing, List.length_map,
      List.length_map]
  peripherals := by
    rw [List.forall₂_map_right_iff]
    exact List.forall₂_same.mpr fun e _ => e.shownBy_checkLine
  devices := by
    rw [List.forall₂_map_right_iff]
    exact List.forall₂_same.mpr fun e _ => e.shownBy_checkLine

/-- Where a text has a line for each entity, the names are on one line each. -/
theorem names_whole {out : CompiledBoard} {references : Bool} {text : String}
    (oneLine : OneLinePerEntity out references text) :
    ∀ e ∈ out.entities, '\n' ∉ e.name.toList := by
  obtain ⟨peripherals, devices, itemizes, split⟩ := oneLine
  have shown : List.Forall₂ ShownBy out.entities (peripherals ++ devices) :=
    List.rel_append itemizes.peripherals itemizes.devices
  intro e member
  obtain ⟨line, present, shows⟩ := exists_of_forall₂ shown.flip e member
  -- The name stands in a line, which has no newline to share.
  have whole := split.whole line (List.mem_append_left _ present)
  have few := Text.newlines_le_of_within shows.name
  rw [newlines_eq_zero_iff.mpr whole] at few
  apply newlines_eq_zero_iff.mp
  omega

theorem newlines_checkReport {out : CompiledBoard} (references : Bool)
    (builtin : ∀ e ∈ out.entities, (e.kind, e.descriptor.structType) ∈ Builtin.structs) :
    newlines (Text.unlines (out.checkReport references)) =
      out.entities.length + 2 + newlines (String.join (out.entities.map CompiledEntity.name)) := by
  have pieces : newlines (String.join (out.entities.map CompiledEntity.checkLine)) =
      newlines (String.join (out.entities.map CompiledEntity.name)) :=
    Text.newlines_join_map_congr fun e member => CompiledEntity.newlines_checkLine (builtin e member)
  have summary : newlines (out.checkSummary references) = 0 := by
    rw [checkSummary_eq]
    exact newlines_summaryLine _ _ references
  have closing : newlines (String.join ["", out.checkSummary references]) = 0 := by
    rw [String.join_cons, String.join_cons, Text.newlines_append, Text.newlines_append, summary]
    rfl
  rw [Text.newlines_unlines, checkReport, List.length_append, List.length_map, String.join_append,
    Text.newlines_append, pieces, closing]
  rfl

theorem oneLinePerEntity_iff {out : CompiledBoard} {references : Bool}
    (builtin : ∀ e ∈ out.entities, (e.kind, e.descriptor.structType) ∈ Builtin.structs) :
    OneLinePerEntity out references (Text.unlines (out.checkReport references)) ↔
      ∀ e ∈ out.entities, '\n' ∉ e.name.toList := by
  constructor
  · exact names_whole
  · intro whole
    have itemizes := out.itemizes_checkReport references
    refine ⟨_, _, itemizes, itemizes.text_eq, ?_⟩
    intro line member
    apply newlines_eq_zero_iff.mp
    rw [← List.map_append] at member
    rcases List.mem_append.mp member with piece | last
    · obtain ⟨e, present, rfl⟩ := List.mem_map.mp piece
      rw [CompiledEntity.newlines_checkLine (builtin e present)]
      exact newlines_eq_zero_iff.mpr (whole e present)
    · rcases List.mem_cons.mp last with rfl | summary
      · rfl
      · rw [List.mem_singleton.mp summary]
        exact newlines_summaryLine _ _ references

end CompiledBoard

namespace Board

variable {board : Board} {mode : Mode} {out : CompiledBoard}

/-- An entity and its declaration: the same name and the declared type. -/
structure DeclaredAs (declared : Entity) (e : CompiledEntity) : Prop where
  name : e.name = declared.name
  kind : declared.raw.typeTag? = some e.kind

theorem mem_structs_of_compiles (compiled : Compiles board Builtin.parsers mode out) :
    ∀ e ∈ out.entities, (e.kind, e.descriptor.structType) ∈ Builtin.structs := by
  intro e member
  rcases mem_entities_cases compiled member with ⟨declared, _, made⟩ | ⟨declared, _, made⟩
  · obtain ⟨parser, get, accepted⟩ := made.peripheral_parser
    exact Builtin.mem_structs_of_peripheral get accepted
  · obtain ⟨parser, get, accepted⟩ := made.device_parser
    exact Builtin.mem_structs_of_device get accepted

theorem forall₂_declaredAs (compiled : Compiles board Builtin.parsers mode out) :
    List.Forall₂ DeclaredAs board.peripherals out.peripherals ∧
      List.Forall₂ DeclaredAs board.devices out.devices := by
  constructor
  · exact compiled.peripherals.imp fun _ _ related => ⟨related.name, related.tag⟩
  · exact compiled.devices.imp fun _ _ related => ⟨related.name, related.tag⟩

/-- A check of a board that compiles prints, whatever file system it runs on, a piece for
each declared entity in its order, an empty line and the counts. The pieces have no
newlines but those of the names, so they are one line for each entity exactly where no
name has a newline. -/
theorem check_prints {references : Bool}
    (compiles : (board.compile Builtin.parsers (.ofReferences references)).outcome = .ok out) :
    (∀ (σ : Type) [FileStore (StateM σ)] (arguments : List String) (working : Path) (s s' : σ),
      CommandLine.Checks arguments working s board references s' →
        ∃ log, (CommandLine.run arguments working : StateM σ CommandLine.Ending).run s =
          (⟨0, Text.unlines (out.checkReport references), log, ""⟩, s')) ∧
    (List.Forall₂ DeclaredAs board.peripherals out.peripherals ∧
      List.Forall₂ DeclaredAs board.devices out.devices) ∧
    (∃ peripherals devices,
      Itemizes out references (Text.unlines (out.checkReport references)) peripherals devices) ∧
    newlines (Text.unlines (out.checkReport references)) =
      out.entities.length + 2 + newlines (String.join (out.entities.map CompiledEntity.name)) ∧
    (OneLinePerEntity out references (Text.unlines (out.checkReport references)) ↔
      ∀ e ∈ out.entities, '\n' ∉ e.name.toList) := by
  have compiled := compiles_of_ok compiles
  have builtin := mem_structs_of_compiles compiled
  refine ⟨?_, forall₂_declaredAs compiled, ⟨_, _, out.itemizes_checkReport references⟩,
    CompiledBoard.newlines_checkReport references builtin,
    CompiledBoard.oneLinePerEntity_iff builtin⟩
  intro σ _ arguments working s s' checks
  have ends := CommandLine.run_of_checks checks
  rw [compiles] at ends
  exact ends

/-- A pin, and a device whose name is not one word. -/
def spacedName : Board where
  peripherals :=
    [⟨"gpio-0", ⟨.mapping [(.string "name", .string "gpio-0"), (.string "type", .string "gpio")]⟩⟩]
  devices :=
    [⟨"power button", ⟨.mapping
       [(.string "name", .string "power button"), (.string "type", .string "gpio_ctrl"),
        (.string "peripherals", .sequence [.string "gpio-0"])]⟩⟩]

/-- The check of this board has a line for each. -/
theorem spacedName_lines :
    ∃ out, (spacedName.compile Builtin.parsers (.ofReferences true)).outcome = .ok out ∧
      OneLinePerEntity out true (Text.unlines (out.checkReport true)) ∧
      out.checkReport true =
        ["  peripheral gpio-0                   gpio         gpio_config_t",
         "  device     power button             gpio_ctrl    dev_gpio_ctrl_config_t",
         "",
         "ok: 1 peripheral(s), 1 device(s)"] := by
  have compiles : (spacedName.compile Builtin.parsers (.ofReferences true)).outcome = .ok _ := rfl
  have whole := (check_prints compiles).2.2.2.2
  exact ⟨_, compiles, whole.mpr (by decide), rfl⟩

/-- A pin with a line break in its name. -/
def brokenName : Board where
  peripherals :=
    [⟨"a\nb", ⟨.mapping [(.string "name", .string "a\nb"), (.string "type", .string "gpio")]⟩⟩]
  devices := []

/-- The document of that board, on a disk without a manifest. -/
def brokenNameDisk : Disk :=
  ⟨[("board.yaml", .file "peripherals:\n  - name: \"a\\nb\"\n    type: gpio\n".toUTF8)], []⟩

/-- It compiles, and its check puts its one entity on two lines. -/
theorem brokenName_lines :
    ∃ out, (brokenName.compile Builtin.parsers (.ofReferences true)).outcome = .ok out ∧
      ((CommandLine.run ["check", "board.yaml"] ⟨"/"⟩ : StateM Disk CommandLine.Ending).run
        brokenNameDisk).1.output = Text.unlines (out.checkReport true) ∧
      out.checkReport true =
        ["  peripheral a\nb                      gpio         gpio_config_t", "",
         "ok: 1 peripheral(s), 0 device(s)"] ∧
      ¬OneLinePerEntity out true (Text.unlines (out.checkReport true)) := by
  have compiles : (brokenName.compile Builtin.parsers (.ofReferences true)).outcome = .ok _ := rfl
  refine ⟨_, compiles, by decide +kernel, rfl, ?_⟩
  intro oneLine
  have whole := CompiledBoard.names_whole oneLine _ (List.mem_singleton_self _)
  exact whole (by decide)

end Board

end BoardCompiler
