/-
# BoardCompiler.Proofs.Manifest.Sections — what the sections of a manifest are decoded to

A section is a table, or an array of its settings in their order, or a date. It is decoded
exactly if each of its settings is of its kind or missing (`only_ok_iff`,
`Project.decode_ok_iff`), and then to these. A table of sections is decoded exactly to what
`Fits` it (`Settings.entries_ok_iff`).
-/
import BoardCompiler.Proofs.Manifest.Decode
import BoardCompiler.Proofs.Toml.Distinct
import BoardCompiler.Proofs.Traversal

namespace BoardCompiler

set_option autoImplicit false

open Toml (Key Span Value)

/-! ## Kinds of values -/

namespace Toml.Value

def IsText (v : Value) (s : String) : Prop := ∃ span, v = .string span s

def IsBoolean (v : Value) (b : Bool) : Prop := ∃ span, v = .boolean span b

def IsTexts (v : Value) (ss : List String) : Prop :=
  ∃ span items, v = .array span items ∧ List.Forall₂ IsText items ss

/-- A table, an array of its settings in their order, or a date, which is a table without
settings. -/
def IsSection : Value → Prop
  | .table _ _ | .array _ _ | .dateTime _ _ => True
  | _ => False

/-- What a section has under a key, or at a place if it is an array. -/
def setting? (key : String) (place : Nat) : Value → Option Value
  | .table _ entries => lookup key entries
  | .array _ items => items[place]?
  | _ => none

theorem Distinct.nodup {span : Option Span} {entries : List (Key × Value)}
    (distinct : (Value.table span entries).Distinct) : (entries.map (·.1.text)).Nodup := by
  cases distinct with
  | table nodup _ => exact nodup

theorem Distinct.of_lookup {span : Option Span} {entries : List (Key × Value)} {name : String}
    {v : Value} (distinct : (Value.table span entries).Distinct)
    (found : lookup name entries = some v) : v.Distinct := by
  obtain ⟨entry, first, rfl⟩ := Option.map_eq_some_iff.mp found
  cases distinct with
  | table _ each => exact each entry (List.mem_of_find?_eq_some first)

end Toml.Value

namespace Manifest

section Kinds

variable {v : Value}

theorem string_ok_iff {s : String} : Decode.string v = .ok s ↔ v.IsText s := by
  cases v <;> simp [Decode.string, Value.IsText]

theorem boolean_ok_iff {b : Bool} : Decode.boolean v = .ok b ↔ v.IsBoolean b := by
  cases v <;> simp [Decode.boolean, Value.IsBoolean]

theorem strings_ok_iff {ss : List String} : Decode.strings v = .ok ss ↔ v.IsTexts ss := by
  cases v <;> simp [Decode.strings, Value.IsTexts, mapM_eq_ok_iff, string_ok_iff]

end Kinds

section Given

variable {α : Type} {means : Value → α → Prop} {v : Value} {o : Option α}

/-- What is there as some value. -/
def Given (means : Value → α → Prop) (v : Value) (o : Option α) : Prop :=
  ∃ a, o = some a ∧ means v a

theorem some_ok_iff {decode : Decoder α} (decoded : ∀ {a}, decode v = .ok a ↔ means v a) :
    (some <$> decode v = .ok o) ↔ Given means v o := by
  rw [map_eq_ok_iff]
  simp only [decoded, Given, and_comm, eq_comm]

theorem setting_some_iff {held : Option Value} {a : α} :
    Setting (Given means) none held (some a) ↔ ∃ v ∈ held, means v a := by
  cases held <;> simp [Setting, Given]

theorem setting_text_iff {held : Option Value} {o : Option String} :
    Setting (some <$> Decode.string · = .ok ·) none held o ↔
      Setting (Given Value.IsText) none held o :=
  setting_congr fun _ _ _ => some_ok_iff string_ok_iff

end Given

/-! ## Sections -/

section Sections

variable {α : Type} {decode : Decoder α} {means : Value → α → Prop} {table key : String}
  {default a : α} {v : Value}

theorem item?_ok_iff {place : Nat} {items : List Value} {o : Option α} :
    Decode.item? decode place items = .ok o ↔
      Setting (some <$> decode · = .ok ·) none items[place]? o := by
  unfold Decode.item?
  cases items[place]? with
  | none => simp [Setting, eq_comm]
  | some v => exact Iff.rfl

theorem only_table (span : Option Span) (es : List (Key × Value)) :
    Decode.only decode table key default (.table span es) =
      Decode.entries (onKey key decode (fun _ x => x) fun a _ _ => .ok a) default es := by
  have same : (fun a name v => if name = key then decode v else .ok a) =
      onKey key decode (fun _ x => x) fun a _ _ => .ok a := by
    funext a name v
    simp [onKey]
  rw [← same]
  rfl

/-- A section of one setting is decoded to it. -/
theorem only_ok_iff (decoded : ∀ {v a}, decode v = .ok a ↔ means v a) (distinct : v.Distinct) :
    Decode.only decode table key default v = .ok a ↔
      v.IsSection ∧ Setting means default (v.setting? key 0) a := by
  have same : ∀ {held}, Setting (decode · = .ok ·) default held a ↔ Setting means default held a :=
    setting_congr fun _ _ _ => decoded
  rw [← same]
  cases v with
  | table span es =>
      have decides : Decides (onKey key decode (fun _ x => x) fun a _ _ => .ok a) key id decode :=
        decides_here (fun decoded => decoded) keeps_none
      rw [only_table, Value.IsSection, true_and, Value.setting?]
      apply entries_ok_iff
      · intro a read
        exact decides.setting distinct.nodup read
      · intro a b
        exact Setting.unique
      · intro a setting entry member b
        apply exists_onKey
        · intro here
          exact ⟨a, setting.of_mem distinct.nodup member here⟩
        · exact ⟨b, rfl⟩
  | array span items =>
      simp only [Decode.only, map_eq_ok_iff, item?_ok_iff, Value.IsSection, Value.setting?,
        true_and]
      cases items[0]? with
      | none => simp [Setting, eq_comm]
      | some v => simp [Setting]
  | dateTime span text => simp [Decode.only, Value.IsSection, Value.setting?, Setting, eq_comm]
  | _ => simp [Decode.only, Value.IsSection]

end Sections

/-! ## The project -/

theorem some_of_decode {α : Type} {decode : Decoder α} {v : Value} {x : α}
    (decoded : decode v = .ok x) : some <$> decode v = .ok (some x) :=
  map_eq_ok_iff.mpr ⟨x, decoded, rfl⟩

theorem exists_of_mem {α : Type} {decode : Decoder α} {name : String} {o : Option α}
    {entry : Key × Value} {es : List (Key × Value)}
    (setting : Setting (some <$> decode · = .ok ·) none (Value.lookup name es) o)
    (nodup : (es.map (·.1.text)).Nodup) (member : entry ∈ es) (here : entry.1.text = name) :
    ∃ x, decode entry.2 = .ok x := by
  obtain ⟨x, decoded, -⟩ := map_eq_ok_iff.mp (setting.of_mem nodup member here)
  exact ⟨x, decoded⟩

namespace Project

theorem add_eq : Settings.add =
    onKey "name" Decode.string (fun p s => { p with name := some s })
      (onKey "chip" Decode.string (fun p s => { p with chip := some s })
        fun p _ _ => .ok p) := rfl

theorem decides_name : Decides Settings.add "name" Settings.name (some <$> Decode.string ·) := by
  rw [add_eq]
  exact decides_here some_of_decode (keeps_onKey (fun _ _ => rfl) keeps_none)

theorem decides_chip : Decides Settings.add "chip" Settings.chip (some <$> Decode.string ·) := by
  rw [add_eq]
  exact decides_later (by decide) (fun _ _ => rfl) (decides_here some_of_decode keeps_none)

theorem entries_ok_iff {es : List (Key × Value)} (nodup : (es.map (·.1.text)).Nodup)
    {p : Settings} :
    Decode.entries Settings.add ⟨none, none⟩ es = .ok p ↔
      Setting (some <$> Decode.string · = .ok ·) none (Value.lookup "name" es) p.name ∧
      Setting (some <$> Decode.string · = .ok ·) none (Value.lookup "chip" es) p.chip := by
  apply Manifest.entries_ok_iff
  · intro p read
    exact ⟨decides_name.setting nodup read, decides_chip.setting nodup read⟩
  · rintro ⟨name, chip⟩ ⟨name', chip'⟩ ⟨named, chipped⟩ ⟨named', chipped'⟩
    cases named.unique named'
    cases chipped.unique chipped'
    rfl
  · rintro p ⟨named, chipped⟩ entry member q
    rw [add_eq]
    apply exists_onKey (exists_of_mem named nodup member)
    apply exists_onKey (exists_of_mem chipped nodup member)
    exact ⟨q, rfl⟩

variable {v : Value} {p : Project}

/-- A project is decoded from a section with its name. -/
theorem decode_ok_iff (distinct : v.Distinct) :
    Project.decode v = .ok p ↔
      v.IsSection ∧ (∃ w ∈ v.setting? "name" 0, w.IsText p.name) ∧
        Setting (Given Value.IsText) none (v.setting? "chip" 1) p.chip := by
  simp only [← setting_some_iff, ← setting_text_iff]
  cases v with
  | table span es =>
      simp only [Project.decode, bind_eq_ok_iff, entries_ok_iff distinct.nodup, Value.IsSection,
        Value.setting?, true_and]
      constructor
      · rintro ⟨⟨_ | name, chip⟩, ⟨named, chipped⟩, made⟩
        · cases made
        · cases made
          exact ⟨named, chipped⟩
      · rintro ⟨named, chipped⟩
        exact ⟨⟨some p.name, p.chip⟩, ⟨named, chipped⟩, rfl⟩
  | array span items =>
      simp only [Project.decode, bind_eq_ok_iff, item?_ok_iff, Value.IsSection, Value.setting?,
        true_and]
      constructor
      · rintro ⟨_ | name, named, made⟩
        · cases made
        · obtain ⟨chip, chipped, made⟩ := bind_eq_ok_iff.mp made
          cases made
          exact ⟨named, item?_ok_iff.mp chipped⟩
      · rintro ⟨named, chipped⟩
        exact ⟨some p.name, named, bind_eq_ok_iff.mpr ⟨p.chip, item?_ok_iff.mpr chipped, rfl⟩⟩
  | dateTime span text => simp [Project.decode, missing, Value.setting?, Setting]
  | _ => simp [Project.decode, Value.IsSection]

end Project

/-! ## The sections of a document -/

namespace Settings

theorem add_eq : add =
    onKey "project" Project.decode (fun p x => { p with project := some x })
      (onKey "board" (Decode.only Decode.strings "BoardConfig" "files" defaultFiles)
        (fun p x => { p with files := x })
        (onKey "check" (Decode.only Decode.boolean "CheckConfig" "references" true)
          (fun p x => { p with references := x })
          (onKey "output" (Decode.only Decode.string "OutputConfig" "path" defaultOutput)
            (fun p x => { p with output := x })
            (onKey "log" (Decode.only (some <$> Decode.string ·) "LogConfig" "level" none)
              (fun p x => { p with level := x })
              fun p _ _ => .ok p)))) := rfl

/-- What the sections are decoded to. -/
structure Fits (es : List (Key × Value)) (p : Settings) : Prop where
  project : Setting (some <$> Project.decode · = .ok ·) none (Value.lookup "project" es) p.project
  files : Setting (Decode.only Decode.strings "BoardConfig" "files" defaultFiles · = .ok ·)
    defaultFiles (Value.lookup "board" es) p.files
  references : Setting (Decode.only Decode.boolean "CheckConfig" "references" true · = .ok ·)
    true (Value.lookup "check" es) p.references
  output : Setting (Decode.only Decode.string "OutputConfig" "path" defaultOutput · = .ok ·)
    defaultOutput (Value.lookup "output" es) p.output
  level : Setting (Decode.only (some <$> Decode.string ·) "LogConfig" "level" none · = .ok ·)
    none (Value.lookup "log" es) p.level

variable {es : List (Key × Value)} {p p' : Settings}

theorem decides_project : Decides add "project" project (some <$> Project.decode ·) := by
  rw [add_eq]
  refine decides_here some_of_decode ?_
  repeat refine keeps_onKey (fun _ _ => rfl) ?_
  exact keeps_none

theorem fits_of_entries (nodup : (es.map (·.1.text)).Nodup)
    (read : Decode.entries add default es = .ok p) : Fits es p := by
  constructor
  case project => exact decides_project.setting nodup read
  all_goals
    refine Decides.setting ?_ nodup read
    rw [add_eq]
    -- the keys before its own leave the setting alone, and so do those after it
    repeat refine decides_later (by decide) (fun _ _ => rfl) ?_
    refine decides_here id ?_
    repeat refine keeps_onKey (fun _ _ => rfl) ?_
    exact keeps_none

theorem Fits.unique (fits : Fits es p) (fits' : Fits es p') : p = p' := by
  obtain ⟨project, files, references, output, level⟩ := p
  obtain ⟨project', files', references', output', level'⟩ := p'
  cases fits.project.unique fits'.project
  cases fits.files.unique fits'.files
  cases fits.references.unique fits'.references
  cases fits.output.unique fits'.output
  cases fits.level.unique fits'.level
  rfl

theorem Fits.accepts (fits : Fits es p) (nodup : (es.map (·.1.text)).Nodup)
    {entry : Key × Value} (member : entry ∈ es) (q : Settings) :
    ∃ q', add q entry.1.text entry.2 = .ok q' := by
  rw [add_eq]
  apply exists_onKey (exists_of_mem fits.project nodup member)
  apply exists_onKey fun here => ⟨_, fits.files.of_mem nodup member here⟩
  apply exists_onKey fun here => ⟨_, fits.references.of_mem nodup member here⟩
  apply exists_onKey fun here => ⟨_, fits.output.of_mem nodup member here⟩
  apply exists_onKey fun here => ⟨_, fits.level.of_mem nodup member here⟩
  exact ⟨q, rfl⟩

/-- A table of sections is decoded to what fits it. -/
theorem entries_ok_iff (nodup : (es.map (·.1.text)).Nodup) :
    Decode.entries add default es = .ok p ↔ Fits es p :=
  Manifest.entries_ok_iff (fits_of_entries nodup) Fits.unique
    fun fits _ member q => fits.accepts nodup member q

end Settings

end Manifest

end BoardCompiler
