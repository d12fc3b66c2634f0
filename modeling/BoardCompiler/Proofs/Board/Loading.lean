/-
# BoardCompiler.Proofs.Board.Loading — loading loses no entity

A board is written as a list of documents if its entities are the entries of their
sections, in order (`Board.WrittenAs`). Plain documents load exactly as the board that is
written as them, and are otherwise refused for the first of them that is no board: for its
shape, or else for the first of its entries that is no entity, of the peripherals before
the devices; files that hold the documents load as they do (`ofDocuments_outcome`). A
document that is not plain may load although its value has no such shape
(`emptyUnderTag_loaded`).
-/
import BoardCompiler.Files.Disk
import BoardCompiler.Proofs.Board.Documents
import BoardCompiler.Proofs.Board.Entities
import BoardCompiler.Proofs.Board.Files

namespace BoardCompiler

set_option autoImplicit false

open Yaml (Value Node Document Load)
open Yaml.Load (Gives)

/-! ## Texts -/

theorem Yaml.Load.onText_eq_ok_iff {α : Type} {read : Document → Load α} {text : String} {a : α} :
    Load.onText read text = .ok a ↔
      ∃ d m, Document.ofText? text = some d ∧ Gives (read d) 0 a m := by
  unfold onText
  cases Document.ofText? text with
  | none => simp
  | some d =>
      simp only [Option.some.injEq, exists_eq_left', exists_and_left]
      change _ ↔ ∃ m, (read d).run 0 = .ok (a, m)
      cases (read d).run 0 with
      | error refusal => simp
      | ok result =>
        obtain ⟨b, count⟩ := result
        simp

/-- The sections of a text are those of its value. -/
theorem BoardSections.read_ok_iff {text : String} {sections : BoardSections}
    (plain : ∀ d ∈ Document.ofText? text, d.isPlain = true) :
    Load.onText read text = .ok sections ↔
      ∃ v, Value.load text = .ok v ∧ ofValue? v = some sections := by
  simp only [Value.load, Load.onText_eq_ok_iff]
  constructor
  · rintro ⟨d, m, parsed, given⟩
    obtain ⟨root, direct⟩ := Document.isAlias_of_ofText? parsed
    obtain ⟨v, given, shape⟩ := (gives_read_iff (plain d parsed) root direct).mp given
    exact ⟨v, ⟨d, m, parsed, given⟩, shape⟩
  · rintro ⟨v, ⟨d, m, parsed, given⟩, shape⟩
    obtain ⟨root, direct⟩ := Document.isAlias_of_ofText? parsed
    exact ⟨d, m, parsed, (gives_read_iff (plain d parsed) root direct).mpr ⟨v, given, shape⟩⟩

/-! ## Boards -/

namespace Board

theorem ofSections_eq_ok_iff {sections : BoardSections} {b : Board} :
    ofSections sections = .ok b ↔
      List.Forall₂ (fun item (e : Entity) => e.WrittenAs item) (sections.peripherals.getD [])
        b.peripherals ∧
      List.Forall₂ (fun item (e : Entity) => e.WrittenAs item) (sections.devices.getD [])
        b.devices := by
  simp only [← Entity.ofValue_eq_ok_iff, ← mapM_eq_ok_iff]
  unfold ofSections
  cases (sections.peripherals.getD []).mapM Entity.ofValue with
  | error e => exact iff_of_false nofun (by simp)
  | ok peripherals =>
      cases (sections.devices.getD []).mapM Entity.ofValue with
      | error e => exact iff_of_false nofun (by simp)
      | ok devices =>
          obtain ⟨_, _⟩ := b
          simp [bind, Except.bind, pure, Except.pure]

/-- A board is refused for the first entry that is none, of the peripherals before the
devices. -/
theorem ofSections_eq_error_iff {sections : BoardSections} {error : EntityError} :
    ofSections sections = .error error ↔
      ∃ before item after,
        sections.peripherals.getD [] ++ sections.devices.getD [] = before ++ item :: after ∧
        (∀ earlier ∈ before, ∃ e : Entity, e.WrittenAs earlier) ∧
        (∀ e : Entity, ¬ e.WrittenAs item) ∧ error = Entity.refusal item := by
  have traversal : ofSections sections = .error error ↔
      (sections.peripherals.getD [] ++ sections.devices.getD []).mapM Entity.ofValue =
        .error error := by
    rw [List.mapM_append]
    unfold ofSections
    cases (sections.peripherals.getD []).mapM Entity.ofValue with
    | error e => simp [bind, Except.bind]
    | ok peripherals =>
        cases (sections.devices.getD []).mapM Entity.ofValue <;>
          simp [bind, Except.bind, pure, Except.pure]
  rw [traversal, mapM_eq_error_iff]
  simp only [Entity.ofValue_eq_error_iff, Entity.ofValue_eq_ok_iff]

/-! ## Documents -/

/-- The board of a text is that of the sections of its value. -/
theorem ofYaml_eq_ok_iff {text : String} {b : Board}
    (plain : ∀ d ∈ Document.ofText? text, d.isPlain = true) :
    ofYaml text = .ok b ↔ ∃ v sections, Value.load text = .ok v ∧
      BoardSections.ofValue? v = some sections ∧ ofSections sections = .ok b := by
  have board : ofYaml text = .ok b ↔ ∃ sections,
      Load.onText BoardSections.read text = .ok sections ∧ ofSections sections = .ok b := by
    unfold ofYaml
    cases Load.onText BoardSections.read text with
    | error e => simp
    | ok sections =>
        simp only [Except.ok.injEq, exists_eq_left']
        cases ofSections sections <;> simp [Except.mapError]
  simp only [board, BoardSections.read_ok_iff plain]
  constructor
  · rintro ⟨sections, ⟨v, loaded, shape⟩, made⟩
    exact ⟨v, sections, loaded, shape, made⟩
  · rintro ⟨v, sections, loaded, shape, made⟩
    exact ⟨sections, ⟨v, loaded, shape⟩, made⟩

/-- Why a text is refused: it has no value of the shape of a board, or it has, and the first
of its entries that is no entity, of the peripherals before the devices, is refused. -/
inductive Refused (text : String) : BoardError → Prop
  | shape {e : Yaml.LoadError}
      (shapeless : ∀ v, Value.load text = .ok v → BoardSections.ofValue? v = none)
      (refused : Load.onText BoardSections.read text = .error e) : Refused text (.yaml e)
  | entry {v : Value} {sections : BoardSections} {before after : List Value} {item : Value}
      (loaded : Value.load text = .ok v) (shape : BoardSections.ofValue? v = some sections)
      (split : sections.peripherals.getD [] ++ sections.devices.getD [] = before ++ item :: after)
      (passed : ∀ earlier ∈ before, ∃ e : Entity, e.WrittenAs earlier)
      (failed : ∀ e : Entity, ¬ e.WrittenAs item) : Refused text (.entity (Entity.refusal item))

theorem ofYaml_eq_error_iff {text : String} {error : BoardError}
    (plain : ∀ d ∈ Document.ofText? text, d.isPlain = true) :
    ofYaml text = .error error ↔ Refused text error := by
  have read : ∀ sections, Load.onText BoardSections.read text = .ok sections ↔ _ := fun _ =>
    BoardSections.read_ok_iff plain
  cases given : Load.onText BoardSections.read text with
  | error e =>
      have shapeless : ∀ v, Value.load text = .ok v → BoardSections.ofValue? v = none := by
        intro v loaded
        refine Option.eq_none_iff_forall_ne_some.mpr fun sections shape => ?_
        have read := (read sections).mpr ⟨v, loaded, shape⟩
        rw [given] at read
        cases read
      simp only [ofYaml, given]
      constructor
      · rintro ⟨⟩
        exact .shape shapeless given
      · intro refused
        cases refused with
        | shape _ refused =>
            rw [given] at refused
            cases refused
            rfl
        | entry loaded shape =>
            rw [shapeless _ loaded] at shape
            cases shape
  | ok sections =>
      obtain ⟨v, loaded, shape⟩ := (read sections).mp given
      have entity : ofYaml text = .error error ↔
          ∃ e, ofSections sections = .error e ∧ error = .entity e := by
        simp only [ofYaml, given]
        cases ofSections sections <;> simp [Except.mapError, eq_comm]
      simp only [entity, ofSections_eq_error_iff]
      constructor
      · rintro ⟨_, ⟨before, item, after, split, passed, failed, rfl⟩, rfl⟩
        exact .entry loaded shape split passed failed
      · intro refused
        cases refused with
        | shape shapeless =>
            rw [shapeless v loaded] at shape
            cases shape
        | entry loaded' shape' split passed failed =>
            rw [loaded] at loaded'
            cases loaded'
            rw [shape] at shape'
            cases shape'
            exact ⟨_, ⟨_, _, _, split, passed, failed, rfl⟩, rfl⟩

/-- A board is written as documents that have values of the shape of a board: its
peripherals are the entries of all their peripherals' sections, one document after
another, and so are its devices. -/
inductive WrittenAs (board : Board) (texts : List String) : Prop
  | intro (values : List Value) (sections : List BoardSections)
      (loaded : List.Forall₂ (fun text v => Value.load text = .ok v) texts values)
      (shapes : List.Forall₂ (fun v s => BoardSections.ofValue? v = some s) values sections)
      (peripherals : List.Forall₂ (fun item (e : Entity) => e.WrittenAs item)
        (sections.flatMap fun s => s.peripherals.getD []) board.peripherals)
      (devices : List.Forall₂ (fun item (e : Entity) => e.WrittenAs item)
        (sections.flatMap fun s => s.devices.getD []) board.devices)

theorem ofDocuments_eq_ok_iff {texts : List String} {board : Board}
    (plain : ∀ text ∈ texts, ∀ d ∈ Document.ofText? text, d.isPlain = true) :
    ofDocuments texts = .ok board ↔ board.WrittenAs texts := by
  induction texts generalizing board with
  | nil =>
      obtain ⟨peripherals, devices⟩ := board
      constructor
      · rintro ⟨⟩
        exact .intro [] [] .nil .nil .nil .nil
      · rintro ⟨_, _, ⟨⟩, ⟨⟩, ⟨⟩, ⟨⟩⟩
        rfl
  | cons text rest ih =>
      have first := fun b => ofYaml_eq_ok_iff (b := b) (plain text (List.mem_cons_self ..))
      have others : ∀ c : Board, ofDocuments rest = .ok c ↔ c.WrittenAs rest := fun c =>
        ih fun t member => plain t (List.mem_cons_of_mem _ member)
      simp only [ofDocuments_cons_eq_ok_iff, first, others, ofSections_eq_ok_iff]
      constructor
      · rintro ⟨b, c, ⟨v, s, loaded, shape, peripherals, devices⟩,
          ⟨values, sections, loaded', shapes, peripherals', devices'⟩, rfl⟩
        refine .intro (v :: values) (s :: sections) (.cons loaded loaded') (.cons shape shapes)
          ?_ ?_
        · rw [List.flatMap_cons]
          exact forall₂_append_left_iff.mpr ⟨_, _, peripherals, peripherals', rfl⟩
        · rw [List.flatMap_cons]
          exact forall₂_append_left_iff.mpr ⟨_, _, devices, devices', rfl⟩
      · rintro ⟨_, _, loads, shapely, peripherals, devices⟩
        obtain ⟨v, values, loaded, loaded', rfl⟩ := List.forall₂_cons_left_iff.mp loads
        obtain ⟨s, sections, shape, shapes, rfl⟩ := List.forall₂_cons_left_iff.mp shapely
        rw [List.flatMap_cons, forall₂_append_left_iff] at peripherals devices
        obtain ⟨p, p', peripherals, peripherals', split⟩ := peripherals
        obtain ⟨q, q', devices, devices', split'⟩ := devices
        refine ⟨⟨p, q⟩, ⟨p', q'⟩, ⟨v, s, loaded, shape, peripherals, devices⟩,
          ⟨values, sections, loaded', shapes, peripherals', devices'⟩, ?_⟩
        rw [extend, ← split, ← split']

/-- Plain documents make up the board that is written as them, if there is one. Otherwise
the first of them that is refused decides. Files that hold these documents load alike, and
their error names the file of the document. -/
theorem ofDocuments_outcome {texts : List String}
    (plain : ∀ text ∈ texts, ∀ d ∈ Document.ofText? text, d.isPlain = true) :
    (∀ board, ofDocuments texts = .ok board ↔ board.WrittenAs texts) ∧
    (∀ error, ofDocuments texts = .error error ↔ ∃ before text after,
      texts = before ++ text :: after ∧ (∃ board, ofDocuments before = .ok board) ∧
        Refused text error) ∧
    ∀ (σ : Type) [FileStore (StateM σ)] (files : List (Path × String)) (s s' : σ),
      files.map Prod.snd = texts → Project.Reads files s s' →
      (∀ board, ((Project.loadFiles (files.map Prod.fst)).endsFrom s).1 = .ok board ↔
        board.WrittenAs texts) ∧
      ∀ failure, ((Project.loadFiles (files.map Prod.fst)).endsFrom s).1 = .error failure ↔
        ∃ before path text after error, files = before ++ (path, text) :: after ∧
          (∃ board, ofDocuments (before.map Prod.snd) = .ok board) ∧
          Refused text error ∧ failure = .board path error := by
  refine ⟨fun board => ofDocuments_eq_ok_iff plain, fun error => ?_, ?_⟩
  · rw [ofDocuments_eq_error_iff]
    refine exists_congr fun before => exists_congr fun text => exists_congr fun after => ?_
    refine and_congr_right fun split => and_congr_right fun _ => ofYaml_eq_error_iff (plain text ?_)
    rw [split]
    exact List.mem_append_right _ (List.mem_cons_self ..)
  · rintro σ _ files s s' rfl reads
    obtain ⟨made, failed⟩ := Project.outcome_loadFiles_of_reads reads
    refine ⟨fun board => (made board).trans (ofDocuments_eq_ok_iff plain), fun failure => ?_⟩
    rw [failed]
    refine exists_congr fun before => exists_congr fun path => exists_congr fun text =>
      exists_congr fun after => exists_congr fun error => and_congr_right fun split =>
        and_congr_right fun _ => and_congr_left fun _ => ofYaml_eq_error_iff (plain text ?_)
    rw [split]
    simp

/-- Two files, the document of the second with its devices in front. -/
def twoFiles : List (Path × String) :=
  [(⟨"pins.yaml"⟩, "peripherals:\n- {name: a, type: gpio}\n- name: b\n"),
   (⟨"parts.yaml"⟩, "devices:\n- name: c\nperipherals: !!seq\n- name: !x d\n")]

def twoDocuments : List String := twoFiles.map Prod.snd

def twoFilesDisk : Disk :=
  ⟨twoFiles.map fun file => (file.1.text, .file file.2.toUTF8), []⟩

theorem twoFiles_read : Project.Reads twoFiles twoFilesDisk twoFilesDisk :=
  .cons (FileStore.run_readText_disk rfl) <| .cons (FileStore.run_readText_disk rfl) <|
    .nil twoFilesDisk

/-- Their board has the peripherals of the first before those of the second. -/
theorem twoDocuments_written :
    (∀ text ∈ twoDocuments, ∀ d ∈ Document.ofText? text, d.isPlain = true) ∧
      Project.Reads twoFiles twoFilesDisk twoFilesDisk ∧
      ∃ board : Board, board.WrittenAs twoDocuments ∧
        ((Project.loadFiles (twoFiles.map Prod.fst)).endsFrom twoFilesDisk).1 = .ok board ∧
        board.peripherals.map Entity.name = ["a", "b", "d"] ∧
        board.devices.map Entity.name = ["c"] := by
  have plain : ∀ text ∈ twoDocuments, ∀ d ∈ Document.ofText? text, d.isPlain = true := by
    decide +kernel
  have names : (match ofDocuments twoDocuments with
      | .ok board => decide (board.peripherals.map Entity.name = ["a", "b", "d"] ∧
          board.devices.map Entity.name = ["c"])
      | .error _ => false) = true := by
    decide +kernel
  obtain ⟨written, -, loaded⟩ := ofDocuments_outcome plain
  refine ⟨plain, twoFiles_read, ?_⟩
  split at names
  next board made =>
    have whole := (written board).mp made
    exact ⟨board, whole, ((loaded Disk twoFiles _ _ rfl twoFiles_read).1 board).mpr whole,
      of_decide_eq_true names⟩
  next => cases names

/-! ## Documents that do not pass for their values -/

/-- A section that is not written, under the tag of strings. -/
def emptyUnderTag : String := "peripherals: !!str\n"

/-- It makes up a board although its value is no section. -/
theorem emptyUnderTag_loaded :
    ¬ ∀ texts board, ofDocuments texts = .ok board ↔ board.WrittenAs texts := by
  intro always
  have accepted : (ofDocuments [emptyUnderTag]).toOption.isSome = true := by decide +kernel
  have shapeless : (match Value.load emptyUnderTag with
      | .ok v => (BoardSections.ofValue? v).isNone
      | .error _ => true) = true := by
    decide +kernel
  cases made : ofDocuments [emptyUnderTag] with
  | error e =>
      rw [made] at accepted
      cases accepted
  | ok board =>
      obtain ⟨_, _, loads, shapes, -, -⟩ := (always _ board).mp made
      obtain ⟨v, _, loaded, -, rfl⟩ := List.forall₂_cons_left_iff.mp loads
      obtain ⟨s, _, shape, -, rfl⟩ := List.forall₂_cons_left_iff.mp shapes
      rw [loaded] at shapeless
      simp [shape] at shapeless

end Board

end BoardCompiler
