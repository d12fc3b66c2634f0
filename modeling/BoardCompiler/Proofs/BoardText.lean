/-
# BoardCompiler.Proofs.BoardText — the written texts say all that was compiled

What is written of a board, a descriptor or a map is a text of its tree, and the tree
holds every member, in its place and of its own kind (`ofJson?_toJson`), so two boards
with one text are one board. No object of the tree names a member twice where the maps
are built by insertion, as those of compiled boards are; so any decoder that is right
about trees without repeats gets the tree back (`written_texts_decode`).
-/
import BoardCompiler.Project
import BoardCompiler.Proofs.Json.Decode
import BoardCompiler.Proofs.Json.Reader

namespace BoardCompiler

set_option autoImplicit false

open Json (IsTextOf)

theorem StructDescriptor.get?_structVar_toJson (d : StructDescriptor) :
    d.toJson.get? "struct_var" = d.structVar.map .string := by
  obtain ⟨structType, structVar, structInit⟩ := d
  cases structVar <;> simp [toJson, Json.get?]

theorem InitMap.toJson_eq_object (m : InitMap) :
    m.toJson = .object (m.entries.map fun entry => (entry.1, entry.2.toJson)) := by
  obtain ⟨entries⟩ := m
  rw [toJson, entriesToJson_eq_map]

/-- Boards with one text have one tree, which is that of one board. -/
theorem CompiledBoard.eq_of_pretty_eq {b c : CompiledBoard}
    (same : b.toJson.pretty = c.toJson.pretty) : b = c := by
  have left := Json.parse?_of_isTextOf (Json.isTextOf_pretty b.toJson)
  rw [same, Json.parse?_of_isTextOf (Json.isTextOf_pretty c.toJson)] at left
  have back := CompiledBoard.ofJson?_toJson b
  rw [← Option.some.inj left, CompiledBoard.ofJson?_toJson c] at back
  exact (Option.some.inj back).symm

/-- A compiled board, a descriptor and a map are got back from what is written of them: by
any decoder that is right about trees without repeated names, which theirs are, and by the
reader of this library whatever their maps. -/
theorem written_texts_decode (decode : String → Option Json) (standard : Json.Decodes decode) :
    (∀ b : CompiledBoard, (∀ e ∈ b.entities, e.descriptor.structInit.Built) →
      b.toJson.NoRepeats ∧ decode b.toJson.pretty = some b.toJson ∧
        decode (Project.boardText b) = some b.toJson) ∧
    (∀ (board : Board) (parsers : ParserRegistry) (mode : Mode) (b : CompiledBoard),
      parsers.BuildsMaps → (board.compile parsers mode).outcome = .ok b →
        ∀ e ∈ b.entities, e.descriptor.structInit.Built) ∧
    Builtin.parsers.BuildsMaps ∧
    (∀ d : StructDescriptor, d.structInit.Built →
      d.toJson.NoRepeats ∧ decode d.toJson.compact = some d.toJson) ∧
    (∀ m : InitMap, m.Built → m.toJson.NoRepeats ∧ decode m.toJson.compact = some m.toJson) ∧
    (∀ b : CompiledBoard, IsTextOf b.toJson.pretty b.toJson ∧
      IsTextOf (Project.boardText b) b.toJson ∧ CompiledBoard.ofJson? b.toJson = some b) ∧
    (∀ d : StructDescriptor, IsTextOf d.toJson.compact d.toJson ∧
      StructDescriptor.ofJson? d.toJson = some d ∧
      d.toJson.get? "struct_var" = d.structVar.map .string) ∧
    (∀ m : InitMap, IsTextOf m.toJson.compact m.toJson ∧ InitMap.ofJson? m.toJson = some m ∧
      m.toJson = .object (m.entries.map fun entry => (entry.1, entry.2.toJson))) ∧
    (∀ value : InitValue, InitValue.ofJson? value.toJson = some value) ∧
    (∀ text j, IsTextOf text j → Json.parse? text = some j) ∧
    (∀ b c : CompiledBoard, b.toJson.pretty = c.toJson.pretty → b = c) := by
  refine ⟨?builtBoards, fun _ _ _ _ => Board.built_of_compile, Builtin.buildsMaps,
    ?builtDescriptors, ?builtMaps, ?boards, ?descriptors, ?maps, InitValue.ofJson?_toJson,
    fun _ _ => Json.parse?_of_isTextOf, fun _ _ => CompiledBoard.eq_of_pretty_eq⟩
  case builtBoards =>
    intro b built
    have distinct := CompiledBoard.noRepeats_toJson built
    exact ⟨distinct, standard _ distinct _ (Json.isTextOf_pretty _),
      standard _ distinct _ (Json.isTextOf_pretty_newline _)⟩
  case builtDescriptors =>
    intro d built
    have distinct := StructDescriptor.noRepeats_toJson built
    exact ⟨distinct, standard _ distinct _ (Json.isTextOf_compact _)⟩
  case builtMaps =>
    intro m built
    exact ⟨built.noRepeats, standard _ built.noRepeats _ (Json.isTextOf_compact _)⟩
  case boards =>
    intro b
    exact ⟨Json.isTextOf_pretty _, Json.isTextOf_pretty_newline _, CompiledBoard.ofJson?_toJson b⟩
  case descriptors =>
    intro d
    exact ⟨Json.isTextOf_compact _, StructDescriptor.ofJson?_toJson d, d.get?_structVar_toJson⟩
  case maps =>
    intro m
    exact ⟨Json.isTextOf_compact _, InitMap.ofJson?_toJson m, m.toJson_eq_object⟩

def awkwardFlags : InitMap :=
  .ofList [("low", .integer (-5)), ("deep", .nested <| .ofList [("on", .bool true)])]

/-- Values of all kinds, at three depths. -/
def awkwardMap : InitMap :=
  .ofList
    [("label", .text "say \"hi\" \\ \t\u0001 é"), ("empty", .nested .empty),
     ("flags", .nested awkwardFlags)]

/-- A peripheral with a name that has to be escaped and a variable of its own. -/
def awkward : CompiledBoard :=
  ⟨["driver/odd.h"], [.of "odd \"0\"\n" "odd" .peripheral ⟨"odd_t", some "odd", awkwardMap⟩], []⟩

theorem awkward_decodes :
    Json.Decodes Json.parse? ∧ (∀ e ∈ awkward.entities, e.descriptor.structInit.Built) ∧
      awkward.toJson.NoRepeats ∧
      Json.parse? (Project.boardText awkward) = some awkward.toJson ∧
      CompiledBoard.ofJson? awkward.toJson = some awkward := by
  have flags : awkwardFlags.Built := InitMap.built_ofList (by
    simp [InitValue.Built.integer, InitValue.Built.bool, InitValue.Built.nested,
      InitMap.built_ofList])
  have map : awkwardMap.Built := InitMap.built_ofList (by
    simp [InitValue.Built.text, InitValue.Built.nested, InitMap.Built.empty, flags])
  have built : ∀ e ∈ awkward.entities, e.descriptor.structInit.Built := by
    intro e member
    rw [List.mem_singleton.mp member]
    exact map
  obtain ⟨boards, -, -, -, -, trees, -⟩ := written_texts_decode Json.parse? Json.parse?_decodes
  obtain ⟨distinct, -, decoded⟩ := boards awkward built
  obtain ⟨-, -, back⟩ := trees awkward
  exact ⟨Json.parse?_decodes, built, distinct, decoded, back⟩

end BoardCompiler
