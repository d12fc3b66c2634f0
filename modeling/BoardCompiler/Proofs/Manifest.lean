/-
# BoardCompiler.Proofs.Manifest — which names a new project's manifest keeps

The template puts the name of a project between quotes as it is. The manifest that is read
from it has the name that these quotes say, whatever else a name that ends them early adds
(`name_of_template`), and a text between quotes says itself only if it needs no escape. So
a new project's manifest is read back as it is meant exactly if its name is not empty and
each of its characters may stand for itself (`template_reads_back_iff`).
-/
import BoardCompiler.Proofs.Manifest.Sections
import BoardCompiler.Proofs.Toml.Standing
import BoardCompiler.Proofs.Toml.Strings
import Mathlib

namespace BoardCompiler.Manifest

set_option autoImplicit false

open Toml (Draft Key Place Progress Reader Span Value)
open Toml.Draft (Settled Sole)

/-! ## The lines of the template -/

/-- The manifest that a new project is to have. -/
def starter (name : String) : Manifest := ⟨name, none, defaultFiles, true, defaultOutput, none⟩

/-- The lines after that of the name. -/
def afterName : List Char :=
  (Text.unlines
    ["", "[board]", "files = [\"board_peripherals.yaml\", \"board_devices.yaml\"]", "", "[check]",
     "references = true"]).toList

/-- What stands before the name. -/
def nameSign : List Char := ['n', 'a', 'm', 'e', ' ', '=', ' ']

theorem toList_template (name : String) :
    (template name).toList =
      "[project]\n".toList ++
        (nameSign ++ '"' :: (name.toList ++ '"' :: '\n' :: afterName)) := by
  simp [template, nameSign, afterName]

theorem single_afterName : ¬ Reader.threeQuotes <:+: afterName := by decide +kernel

/-- What has been read after the header, with `left` characters left. -/
def heading (length left : Nat) : Progress :=
  ⟨⟨length, length⟩, [], .table [] ⟨"project", ⟨left + 9, left + 2⟩⟩, ⟨left + 10, left + 1⟩, []⟩

/-- What has been read after the name, with `left` characters left after the header. -/
def naming (length left : Nat) (name : String) (span : Span) : Progress :=
  ⟨⟨length, length⟩, [], .table [] ⟨"project", ⟨left + 9, left + 2⟩⟩,
    Span.upTo ⟨left + 10, left + 1⟩ span,
    [(⟨"name", ⟨left, left - 4⟩⟩, .closed (.string span name))]⟩

theorem line_header (length : Nat) (text : List Char) :
    Reader.line (.start length) ("[project]\n".toList ++ text) =
      some (heading length text.length, text) := by
  cbv

theorem key_name (text : List Char) :
    Reader.key (nameSign ++ '"' :: text) =
      some (([], ⟨"name", ⟨text.length + 8, text.length + 4⟩⟩), '=' :: ' ' :: '"' :: text) := by
  cbv

theorem lines_header (fuel length : Nat) (text : List Char) :
    Reader.lines (fuel + 1) (.start length) ("[project]\n".toList ++ text) =
      Reader.lines fuel (heading length text.length) text := by
  have shown : Reader.isBlank '[' = false := by decide
  exact (Reader.lines_of_line shown).trans (Reader.bind_of_some (line_header length text))

theorem line_name_iff {length : Nat} {text rest : List Char} {p : Progress} :
    Reader.line (heading length (text.length + 8)) (nameSign ++ '"' :: text) = some (p, rest) ↔
      ∃ said after, Reader.string ('"' :: text) = some (said, after) ∧
        Reader.endOfLine after = some ((), rest) ∧
        p = naming length (text.length + 8) said ⟨text.length + 1, after.length⟩ := by
  refine (Reader.line_of_pair_eq_some_iff (by decide) (by decide)).trans ?_
  constructor
  · rintro ⟨way, name, value, after, paired, ended, inserted⟩
    obtain ⟨_, named, valued⟩ := Reader.pair_eq_some_iff.mp paired
    cases (key_name text).symm.trans named
    obtain ⟨said, string, rfl⟩ := Reader.value_quoted_iff.mp valued
    cases inserted
    exact ⟨said, after, string, ended, rfl⟩
  · rintro ⟨said, after, string, ended, rfl⟩
    exact ⟨_, _, _, after, Reader.pair_eq_some_iff.mpr
      ⟨_, key_name text, Reader.value_quoted_iff.mpr ⟨said, string, rfl⟩⟩, ended, rfl⟩

theorem lines_afterName (fuel length left : Nat) (name : String) (span : Span) :
    ∃ p entries, Reader.lines (fuel + 8) (naming length left name span) afterName = some (p, []) ∧
      p.close? = some entries ∧
        ∀ span, decode (.table span (Draft.toValues entries)) = .ok (starter name) :=
  ⟨_, _, by cbv, by cbv, fun _ => by cbv⟩

/-- The text of a template after the quote that opens its name. -/
def afterQuote (name : String) : List Char := name.toList ++ '"' :: '\n' :: afterName

/-- A template is read exactly if its name is, as some text, and then the lines after it. -/
theorem lines_template_iff {fuel length : Nat} {name : String} {rest : List Char} {p : Progress} :
    Reader.lines (fuel + 2) (.start length) (template name).toList = some (p, rest) ↔
      ∃ said after between, Reader.string ('"' :: afterQuote name) = some (said, after) ∧
        Reader.endOfLine after = some ((), between) ∧
        Reader.lines fuel
          (naming length ((afterQuote name).length + 8) said
            ⟨(afterQuote name).length + 1, after.length⟩) between = some (p, rest) := by
  have shown : Reader.isBlank 'n' = false := by decide
  have lines : Reader.lines (fuel + 2) (.start length) (template name).toList =
      (Reader.line (heading length ((afterQuote name).length + 8)) >>= Reader.lines fuel)
        (nameSign ++ '"' :: afterQuote name) := by
    rw [toList_template, lines_header]
    exact Reader.lines_of_line shown
  rw [lines, Reader.bind_eq_some_iff]
  simp only [line_name_iff]
  constructor
  · rintro ⟨_, between, ⟨said, after, string, ended, rfl⟩, others⟩
    exact ⟨said, after, between, string, ended, others⟩
  · rintro ⟨said, after, between, string, ended, others⟩
    exact ⟨_, between, ⟨said, after, string, ended, rfl⟩, others⟩

theorem dropByteOrderMark_template (name : String) :
    Toml.dropByteOrderMark (template name).toList = (template name).toList := by
  rw [toList_template]
  rfl

theorem length_template (name : String) : 10 ≤ (template name).toList.length := by
  rw [toList_template, List.length_append]
  exact Nat.le_add_right 10 _

/-- A template with a name that needs no escape is read back as it is meant. -/
theorem template_reads_back {name : String} (present : name ≠ "")
    (plain : ∀ c ∈ name.toList, Reader.isPlain c = true) :
    ofText (template name) = .ok (starter name) := by
  obtain ⟨fuel, enough⟩ : ∃ fuel, (template name).toList.length + 1 = fuel + 8 + 2 :=
    ⟨(template name).toList.length - 9, by have := length_template name; omega⟩
  have string : Reader.string ('"' :: afterQuote name) = some (name, '\n' :: afterName) := by
    rw [afterQuote, Reader.string_quoted plain, String.ofList_toList]
  obtain ⟨p, entries, others, close, decoded⟩ :=
    lines_afterName fuel (template name).toList.length ((afterQuote name).length + 8) name
      ⟨(afterQuote name).length + 1, ('\n' :: afterName).length⟩
  have lines := lines_template_iff.mpr ⟨name, _, afterName, string, rfl, others⟩
  have read : Value.ofToml? (template name) =
      some (.table (some p.rootSpan) (Draft.toValues entries)) :=
    Value.ofToml?_eq_some_iff.mpr ⟨p, [], entries,
      by rw [dropByteOrderMark_template, enough, lines], close, rfl⟩
  simp [ofText, read, ofToml, decoded, starter, present]

/-! ## The name that is read -/

/-- The key that decides a part of what is read decides what holds of it. -/
theorem part_of_entries {σ β : Type} {work : σ → String → Value → Except Toml.Refusal σ}
    {key : String} {part : σ → β} {decode : Decoder β} {Q : β → Prop} {es : Draft.Entries}
    {a a' : σ}
    (decides : Decides work key part decode)
    (own : ∀ entry ∈ es, entry.1.text = key → ∀ b, decode entry.2.toValue = .ok b → Q b)
    (holds : Q (part a)) (decoded : Decode.entries work a (Draft.toValues es) = .ok a') :
    Q (part a') := by
  induction es generalizing a with
  | nil =>
      cases decoded
      exact holds
  | cons entry es ih =>
      obtain ⟨first, others⟩ := List.forall_mem_cons.mp own
      rw [Draft.toValues] at decoded
      obtain ⟨between, worked, decoded⟩ := entries_cons_eq_ok_iff.mp decoded
      refine ih others ?_ decoded
      by_cases here : entry.1.text = key
      · exact first here _ (decides.own (here ▸ worked))
      · rwa [decides.other here worked]

variable {said : String} {place : Span} {span : Option Span} {es : Draft.Entries}

theorem name_of_project {project : Project}
    (sole : Sole "name" (· = .closed (.string place said)) es)
    (decoded : Project.decode (.table span (Draft.toValues es)) = .ok project) :
    project.name = said := by
  obtain ⟨p, settings, made⟩ := bind_eq_ok_iff.mp decoded
  have holds : ∀ name ∈ p.name, name = said := by
    refine part_of_entries Project.decides_name (Q := fun o => ∀ name ∈ o, name = said)
      ?_ (by simp) settings
    intro entry member named o decoded
    obtain ⟨name, string, rfl⟩ := map_eq_ok_iff.mp decoded
    rw [sole.2 entry member named] at string
    cases string
    simp
  cases named : p.name with
  | none => simp [named, missing] at made
  | some name =>
      simp only [named] at made
      cases made
      exact holds name named

theorem name_of_manifest {m : Manifest}
    (sole : Sole "project" (Settled (.string place said) ["name"]) es)
    (decoded : decode (.table span (Draft.toValues es)) = .ok m) : m.name = said := by
  obtain ⟨p, settings, made⟩ := bind_eq_ok_iff.mp decoded
  have holds : ∀ project ∈ p.project, project.name = said := by
    refine part_of_entries Settings.decides_project
      (Q := fun o => ∀ project ∈ o, project.name = said) ?_ (by simp [Settings.default]) settings
    intro entry member named o read
    obtain ⟨project, own, rfl⟩ := map_eq_ok_iff.mp read
    obtain ⟨span, inner, table, sole⟩ := sole.2 entry member named
    rw [table] at own
    rintro _ ⟨⟩
    exact name_of_project sole own
  cases present : p.project with
  | none => simp [present, missing] at made
  | some project =>
      simp only [present] at made
      cases made
      exact holds project present

theorem naming_holds (length left : Nat) (said : String) (place : Span) :
    (naming length left said place).Holds (.string place said) "project" "name" :=
  .reading _ rfl rfl rfl ⟨⟨_, List.mem_singleton_self _, rfl⟩, by simp [naming]⟩

/-- The manifest that is read from a template has the name that its quotes say. -/
theorem name_of_template {name : String} {m : Manifest} (read : ofText (template name) = .ok m) :
    m.name ≠ "" ∧ ∃ after, Reader.string ('"' :: afterQuote name) = some (m.name, after) := by
  unfold ofText at read
  split at read
  · cases read
  next v document =>
  obtain ⟨p, rest, entries, lines, close, rfl⟩ := Value.ofToml?_eq_some_iff.mp document
  obtain ⟨fuel, enough⟩ : ∃ fuel, (template name).toList.length + 1 = fuel + 2 :=
    ⟨(template name).toList.length - 1, by have := length_template name; omega⟩
  rw [dropByteOrderMark_template, enough] at lines
  obtain ⟨said, after, between, string, ended, others⟩ := lines_template_iff.mp lines
  -- the lines that the name adds, if it ends early, keep what has been read as the name
  have settled := (Reader.lines_holds (naming_holds _ _ _ _) others).close close
  unfold ofToml at read
  split at read
  · cases read
  next m' decoded =>
  split_ifs at read with empty
  cases read
  have same := name_of_manifest settled decoded
  exact ⟨by simpa using empty, after, by rw [same, string]⟩

/-- A name that is read back needs no escape. -/
theorem isPlain_of_reads_back {name : String} (read : ofText (template name) = .ok (starter name)) :
    name ≠ "" ∧ ∀ c ∈ name.toList, Reader.isPlain c = true := by
  obtain ⟨present, after, string⟩ := name_of_template read
  refine ⟨present, (Reader.string_quoted_iff single_afterName).mp ⟨after, ?_⟩⟩
  rw [String.ofList_toList]
  exact string

/-- A new project's manifest is read back as it is meant exactly if its name is not empty
and needs no escape. -/
theorem template_reads_back_iff (name : String) :
    ofText (template name) = .ok (starter name) ↔
      name ≠ "" ∧ ∀ c ∈ name.toList, Reader.isPlain c = true :=
  ⟨isPlain_of_reads_back, fun ⟨present, plain⟩ => template_reads_back present plain⟩

/-- A quote in a name ends the name early. -/
theorem quoted_name_not_read_back :
    ¬ ∀ name, name ≠ "" → ofText (template name) = .ok (starter name) := by
  intro always
  obtain ⟨-, plain⟩ := isPlain_of_reads_back (always "a\"b" (by decide))
  exact absurd (plain '"' (by decide)) (by decide)

end BoardCompiler.Manifest
