/-
# BoardCompiler.Proofs.Manifest.Grammar — which documents are manifests

A manifest has six settings, each at its `Site`: under a key of a section of the document.
The document `Describes` a manifest if its sections are of the shape of one and every setting
is what the document has at its site, or its default if the document has nothing there.
Exactly then the text of the document is read as the manifest (`reads_settings`); so the
manifest depends on what is at the six sites and on nothing else, and a section that is
missing is as one without its key. A section need not be a table, though: an array of its
settings in their order is one too (`listedProject_read`).
-/
import BoardCompiler.Proofs.Manifest.Sections
import Mathlib

namespace BoardCompiler

set_option autoImplicit false

open Toml (Key Span Value)

namespace Toml.Value

def IsTable : Value → Prop
  | .table _ _ => True
  | _ => False

/-- The section of a document under a name. -/
def section? (name : String) : Value → Option Value
  | .table _ entries => lookup name entries
  | _ => none

/-! ## Values wherever they stand -/

mutual

/-- The value without the stretches of text that it was written in. -/
def bare : Value → Value
  | .string _ text => .string ⟨0, 0⟩ text
  | .integer _ value => .integer ⟨0, 0⟩ value
  | .float _ value => .float ⟨0, 0⟩ value
  | .boolean _ value => .boolean ⟨0, 0⟩ value
  | .dateTime _ text => .dateTime ⟨0, 0⟩ text
  | .array _ items => .array none (bareItems items)
  | .table _ entries => .table none (bareEntries entries)

def bareItems : List Value → List Value
  | [] => []
  | v :: rest => v.bare :: bareItems rest

def bareEntries : List (Key × Value) → List (Key × Value)
  | [] => []
  | (key, v) :: rest => (⟨key.text, ⟨0, 0⟩⟩, v.bare) :: bareEntries rest

end

variable {v : Value}

theorem bareItems_eq_map (items : List Value) : bareItems items = items.map bare := by
  induction items with
  | nil => rfl
  | cons v items ih => rw [bareItems, ih, List.map_cons]

theorem isText_bare {s : String} : v.bare.IsText s ↔ v.IsText s := by
  cases v <;> simp [bare, IsText]

theorem isBoolean_bare {b : Bool} : v.bare.IsBoolean b ↔ v.IsBoolean b := by
  cases v <;> simp [bare, IsBoolean]

theorem isTexts_bare {ss : List String} : v.bare.IsTexts ss ↔ v.IsTexts ss := by
  cases v with
  | array span items =>
      simp [bare, IsTexts, bareItems_eq_map, List.forall₂_map_left_iff, isText_bare]
  | _ => simp [bare, IsTexts]

end Toml.Value

namespace Manifest

/-! ## Sites -/

/-- Where a document has a setting: under a key of a section, or at a place of one that is an
array. -/
structure Site where
  table : String
  key : String
  place : Nat
  deriving DecidableEq

namespace Site

def name : Site := ⟨"project", "name", 0⟩
def chip : Site := ⟨"project", "chip", 1⟩
def files : Site := ⟨"board", "files", 0⟩
def references : Site := ⟨"check", "references", 0⟩
def output : Site := ⟨"output", "path", 0⟩
def level : Site := ⟨"log", "level", 0⟩

def all : List Site := [name, chip, files, references, output, level]

/-- What a document has at a site. -/
def held? (site : Site) (document : Value) : Option Value :=
  (document.section? site.table).bind (Value.setting? site.key site.place)

/-- A document has nothing at a site: no such section, or nothing there in the section. -/
inductive Vacant (site : Site) (document : Value) : Prop where
  | noSection : document.section? site.table = none → Vacant site document
  | noSetting {v : Value} : document.section? site.table = some v →
      v.setting? site.key site.place = none → Vacant site document

theorem Vacant.held? {site : Site} {document : Value} (vacant : site.Vacant document) :
    site.held? document = none := by
  cases vacant with
  | noSection absent => rw [Site.held?, absent, Option.bind_none]
  | noSetting present empty => rw [Site.held?, present, Option.bind_some, empty]

end Site

/-- The sections of a document have a shape. -/
def Shaped (shape : Value → Prop) (document : Value) : Prop :=
  ∀ site ∈ Site.all, ∀ v ∈ document.section? site.table, shape v

/-- Two documents have the same at every site, wherever it is written. -/
def Alike (document document' : Value) : Prop :=
  ∀ site ∈ Site.all, (site.held? document).map Value.bare = (site.held? document').map Value.bare

/-- The settings of a document, in sections of a shape, are those of a manifest. -/
structure Describes (shape : Value → Prop) (document : Value) (m : Manifest) : Prop where
  shaped : Shaped shape document
  name : ∃ v ∈ Site.name.held? document, v.IsText m.name
  named : m.name ≠ ""
  chip : Setting (Given Value.IsText) none (Site.chip.held? document) m.chip
  files : Setting Value.IsTexts defaultFiles (Site.files.held? document) m.files
  references : Setting Value.IsBoolean true (Site.references.held? document) m.references
  output : Setting Value.IsText defaultOutput (Site.output.held? document) m.output
  level : Setting (Given Value.IsText) none (Site.level.held? document) m.level

/-- What a manifest has where its document has nothing. -/
structure Defaulted (document : Value) (m : Manifest) : Prop where
  chip : Site.chip.Vacant document → m.chip = none
  files : Site.files.Vacant document →
    m.files = ["board_peripherals.yaml", "board_devices.yaml"]
  references : Site.references.Vacant document → m.references = true
  output : Site.output.Vacant document → m.output = "build/board.json"
  level : Site.level.Vacant document → m.level = none

section Sites

variable {shape : Value → Prop} {document document' : Value} {m : Manifest}

theorem given_bare {α : Type} {means : Value → α → Prop} {v : Value} {o : Option α}
    (same : ∀ {a}, means v.bare a ↔ means v a) : Given means v.bare o ↔ Given means v o := by
  simp only [Given, same]

theorem setting_of_alike {α : Type} {means : Value → α → Prop} {default a : α}
    {held held' : Option Value} (same : ∀ {v a}, means v.bare a ↔ means v a)
    (alike : held.map Value.bare = held'.map Value.bare)
    (setting : Setting means default held a) : Setting means default held' a := by
  have bared : ∀ o : Option Value,
      Setting means default (o.map Value.bare) a ↔ Setting means default o a := by
    intro o
    cases o with
    | none => exact Iff.rfl
    | some v => exact same
  rwa [← bared, ← alike, bared]

theorem Describes.of_alike (describes : Describes shape document m)
    (alike : Alike document document') (shaped : Shaped shape document') :
    Describes shape document' m where
  shaped := shaped
  name := by
    have name := setting_of_alike (given_bare Value.isText_bare) (alike .name (by decide))
      (setting_some_iff.mpr describes.name)
    exact setting_some_iff.mp name
  named := describes.named
  chip := setting_of_alike (given_bare Value.isText_bare) (alike .chip (by decide)) describes.chip
  files := setting_of_alike Value.isTexts_bare (alike .files (by decide)) describes.files
  references :=
    setting_of_alike Value.isBoolean_bare (alike .references (by decide)) describes.references
  output := setting_of_alike Value.isText_bare (alike .output (by decide)) describes.output
  level :=
    setting_of_alike (given_bare Value.isText_bare) (alike .level (by decide)) describes.level

theorem Site.Vacant.eq_default {α : Type} {means : Value → α → Prop} {default a : α} {site : Site}
    (vacant : site.Vacant document) (setting : Setting means default (site.held? document) a) :
    a = default := by
  rwa [vacant.held?] at setting

theorem Describes.defaulted (describes : Describes shape document m) : Defaulted document m where
  chip vacant := vacant.eq_default describes.chip
  files vacant := vacant.eq_default describes.files
  references vacant := vacant.eq_default describes.references
  output vacant := vacant.eq_default describes.output
  level vacant := vacant.eq_default describes.level

/-! ## Documents -/

theorem setting_only_iff {α : Type} {decode : Decoder α} {means : Value → α → Prop}
    {table name key : String} {default a : α} {span : Option Span} {es : List (Key × Value)}
    (decoded : ∀ {v a}, decode v = .ok a ↔ means v a) (distinct : (Value.table span es).Distinct) :
    Setting (Decode.only decode table key default · = .ok ·) default (Value.lookup name es) a ↔
      (∀ v ∈ Value.lookup name es, v.IsSection) ∧
        Setting means default ((Value.lookup name es).bind (Value.setting? key 0)) a := by
  cases held : Value.lookup name es with
  | none => simp [Setting]
  | some v =>
      simp only [Option.mem_some, forall_eq', Option.bind_some]
      exact only_ok_iff decoded (distinct.of_lookup held)

theorem setting_project_iff {name : String} {span : Option Span} {es : List (Key × Value)}
    {project : Project} (distinct : (Value.table span es).Distinct) :
    Setting (some <$> Project.decode · = .ok ·) none (Value.lookup name es) (some project) ↔
      (∀ v ∈ Value.lookup name es, v.IsSection) ∧
        (∃ v ∈ (Value.lookup name es).bind (Value.setting? "name" 0), v.IsText project.name) ∧
        Setting (Given Value.IsText) none ((Value.lookup name es).bind (Value.setting? "chip" 1))
          project.chip := by
  cases held : Value.lookup name es with
  | none => simp [Setting]
  | some v =>
      have read := Project.decode_ok_iff (p := project) (distinct.of_lookup held)
      simpa [Setting, map_eq_ok_iff] using read

theorem decode_table_ok_iff {span : Option Span} {es : List (Key × Value)}
    (nodup : (es.map (·.1.text)).Nodup) :
    decode (.table span es) = .ok m ↔
      Settings.Fits es ⟨some ⟨m.name, m.chip⟩, m.files, m.references, m.output, m.level⟩ := by
  simp only [decode, bind_eq_ok_iff, Settings.entries_ok_iff nodup]
  constructor
  · rintro ⟨⟨_ | project, files, references, output, level⟩, fits, made⟩
    · cases made
    · cases made
      exact fits
  · intro fits
    exact ⟨_, fits, rfl⟩

theorem fits_iff {span : Option Span} {es : List (Key × Value)}
    (distinct : (Value.table span es).Distinct) (named : m.name ≠ "") :
    Settings.Fits es ⟨some ⟨m.name, m.chip⟩, m.files, m.references, m.output, m.level⟩ ↔
      Describes Value.IsSection (.table span es) m := by
  have optional : ∀ {v o}, some <$> Decode.string v = .ok o ↔ Given Value.IsText v o :=
    some_ok_iff string_ok_iff
  constructor
  · rintro ⟨project, files, references, output, level⟩
    obtain ⟨project, name, chip⟩ := (setting_project_iff distinct).mp project
    obtain ⟨board, files⟩ := (setting_only_iff strings_ok_iff distinct).mp files
    obtain ⟨check, references⟩ := (setting_only_iff boolean_ok_iff distinct).mp references
    obtain ⟨out, output⟩ := (setting_only_iff string_ok_iff distinct).mp output
    obtain ⟨log, level⟩ := (setting_only_iff optional distinct).mp level
    refine ⟨?_, name, named, chip, files, references, output, level⟩
    simp only [Shaped, Site.all, List.forall_mem_cons]
    exact ⟨project, project, board, check, out, log, nofun⟩
  · rintro ⟨shaped, name, -, chip, files, references, output, level⟩
    constructor
    · exact (setting_project_iff distinct).mpr ⟨shaped .name (by decide), name, chip⟩
    · exact (setting_only_iff strings_ok_iff distinct).mpr ⟨shaped .files (by decide), files⟩
    · exact (setting_only_iff boolean_ok_iff distinct).mpr
        ⟨shaped .references (by decide), references⟩
    · exact (setting_only_iff string_ok_iff distinct).mpr ⟨shaped .output (by decide), output⟩
    · exact (setting_only_iff optional distinct).mpr ⟨shaped .level (by decide), level⟩

theorem ofToml_eq_ok_iff : ofToml document = .ok m ↔ decode document = .ok m ∧ m.name ≠ "" := by
  unfold ofToml
  cases decode document with
  | error r => simp
  | ok m' =>
      change (if m'.name.isEmpty = true then Except.error ManifestError.emptyName else .ok m') =
        .ok m ↔ _
      simp only [String.isEmpty_iff]
      split_ifs with empty
      · refine iff_of_false nofun ?_
        rintro ⟨⟨⟩, named⟩
        exact named empty
      · constructor
        · rintro ⟨⟩
          exact ⟨rfl, empty⟩
        · rintro ⟨⟨⟩, -⟩
          rfl

/-- A document without repeated keys is read as the manifest that it describes. -/
theorem ofToml_ok_iff (distinct : document.Distinct) :
    ofToml document = .ok m ↔ Describes Value.IsSection document m := by
  cases document with
  | table span es =>
      rw [ofToml_eq_ok_iff, decode_table_ok_iff distinct.nodup]
      constructor
      · rintro ⟨fits, named⟩
        exact (fits_iff distinct named).mp fits
      · intro describes
        exact ⟨(fits_iff distinct describes.named).mpr describes, describes.named⟩
  | _ =>
      refine iff_of_false (by simp [ofToml, decode]) ?_
      rintro ⟨-, ⟨v, held, -⟩, -⟩
      cases held

theorem ofText_ok_iff {text : String} :
    ofText text = .ok m ↔ ∃ document, Value.ofToml? text = some document ∧
      Describes Value.IsSection document m := by
  unfold ofText
  cases parsed : Value.ofToml? text with
  | none => simp
  | some document => simp [ofToml_ok_iff (Value.distinct_of_ofToml? parsed)]

end Sites

/-- A text is read as a manifest exactly if it is a document that describes it. The manifest
is that of every document of such a shape with the same at the six sites, and has its defaults
where there is nothing. -/
theorem reads_settings (text : String) :
    (∀ m, ofText text = .ok m ↔ ∃ document, Value.ofToml? text = some document ∧
      Describes Value.IsSection document m) ∧
    ∀ m document, ofText text = .ok m → Value.ofToml? text = some document →
      Defaulted document m ∧
      ∀ text' document', Value.ofToml? text' = some document' →
        Shaped Value.IsSection document' → Alike document document' → ofText text' = .ok m := by
  refine ⟨fun m => ofText_ok_iff, fun m document read parsed => ?_⟩
  obtain ⟨same, parsed', describes⟩ := ofText_ok_iff.mp read
  cases Option.some.inj (parsed.symm.trans parsed')
  refine ⟨describes.defaulted, fun text' document' parsed' shaped alike => ?_⟩
  exact ofText_ok_iff.mpr ⟨document', parsed', describes.of_alike alike shaped⟩

def plainText : String := "[project]\nname = \"demo\"\n"

def plain : Value :=
  .table (some ⟨24, 24⟩)
    [(⟨"project", ⟨23, 16⟩⟩,
      .table (some ⟨24, 1⟩) [(⟨"name", ⟨14, 10⟩⟩, .string ⟨7, 1⟩ "demo")])]

def scatteredText : String := "board = []\nextra = true\nproject.name = \"demo\"\n"

/-- The settings of `plain`, written another way among other keys. -/
def scattered : Value :=
  .table (some ⟨46, 1⟩)
    [(⟨"board", ⟨46, 41⟩⟩, .array (some ⟨38, 36⟩) []),
     (⟨"extra", ⟨35, 30⟩⟩, .boolean ⟨27, 23⟩ true),
     (⟨"project", ⟨22, 15⟩⟩,
      .table none [(⟨"name", ⟨14, 10⟩⟩, .string ⟨7, 1⟩ "demo")])]

theorem scattered_alike :
    ofText plainText = .ok ⟨"demo", none, defaultFiles, true, defaultOutput, none⟩ ∧
      Value.ofToml? plainText = some plain ∧ Value.ofToml? scatteredText = some scattered ∧
      Shaped Value.IsSection scattered ∧ Alike plain scattered ∧
      ofText scatteredText = .ok ⟨"demo", none, defaultFiles, true, defaultOutput, none⟩ := by
  have read : ofText plainText = .ok ⟨"demo", none, defaultFiles, true, defaultOutput, none⟩ := by
    cbv
  have parsed : Value.ofToml? plainText = some plain := by cbv
  have parsed' : Value.ofToml? scatteredText = some scattered := by cbv
  have shaped : Shaped Value.IsSection scattered := by
    simp [Shaped, Site.all, Site.name, Site.chip, Site.files, Site.references, Site.output,
      Site.level, scattered, Value.section?, Value.lookup, Value.IsSection]
  have alike : Alike plain scattered := by
    simp [Alike, Site.all, Site.name, Site.chip, Site.files, Site.references, Site.output,
      Site.level, Site.held?, plain, scattered, Value.section?, Value.lookup, Value.setting?,
      Value.bare]
  exact ⟨read, parsed, parsed', shaped, alike,
    ((reads_settings plainText).2 _ _ read parsed).2 _ _ parsed' shaped alike⟩

/-- A project may be an array with its name and chip instead of a table. -/
theorem listedProject_read :
    ¬ ∀ text document, Value.ofToml? text = some document →
      ((∃ m, ofText text = .ok m) ↔ ∃ m, Describes Value.IsTable document m) := by
  intro always
  have parsed : Value.ofToml? "project = [\"demo\"]" = some
      (.table (some ⟨18, 0⟩)
        [(⟨"project", ⟨18, 11⟩⟩, .array (some ⟨8, 0⟩) [.string ⟨7, 1⟩ "demo"])]) := by cbv
  have read : ofText "project = [\"demo\"]" =
      .ok ⟨"demo", none, defaultFiles, true, defaultOutput, none⟩ := by cbv
  obtain ⟨m, describes⟩ := (always _ _ parsed).mp ⟨_, read⟩
  exact describes.shaped .name (by decide) (.array (some ⟨8, 0⟩) [.string ⟨7, 1⟩ "demo"])
    (by simp [Site.name, Value.section?, Value.lookup])

-- A date is a section too, without any settings.
example : ofText "log = 1979-05-27\nproject.name = \"demo\"\n" =
    .ok ⟨"demo", none, defaultFiles, true, defaultOutput, none⟩ := by cbv

end Manifest

end BoardCompiler
