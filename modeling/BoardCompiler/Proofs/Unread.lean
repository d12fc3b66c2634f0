/-
# BoardCompiler.Proofs.Unread — which keys are reported as unread

A read takes the value of the entry whose key is the untagged string that it asks for, and
records that string (`FieldRead.entry?`, `FieldRead.run_eq`). The report goes by how keys
are shown: it leaves out every key that is shown like a recorded string. For untagged
strings the two agree, so such a key is left out exactly if some read took its value. A
key of another kind has no read that takes its value, and is still left out where it is
shown like the name of a read (`Mistaken`): the tagged string `!x pin` is, once `pin` has
been read. The report is that of the keys whose values no read took exactly if there is no
such key (`unread_eq_unconsulted_iff`).
-/
import BoardCompiler.Fields
import Mathlib.Data.List.Basic

namespace BoardCompiler

set_option autoImplicit false

open Yaml (Value)

/-- A read of a field, whatever comes of it. -/
inductive FieldRead where
  | integer (key : String) (default : Int) (rule : IntegerRule)
  | flag (key : String) (default : Int)
  | boolean (key : String) (default : Bool)
  | choice (key : String) (default : String) (choices : List String)

namespace FieldRead

def key : FieldRead → String
  | .integer key _ _ => key
  | .flag key _ => key
  | .boolean key _ => key
  | .choice key _ _ => key

/-- The fields after the read, which may have been refused. -/
def run (fields : Fields) : FieldRead → Fields
  | .integer key default rule => ((FieldReader.integer key default rule).runOn fields).2
  | .flag key default => ((FieldReader.flag key default).runOn fields).2
  | .boolean key default => ((FieldReader.boolean key default).runOn fields).2
  | .choice key default choices => ((FieldReader.choice key default choices).runOn fields).2

/-- The entry whose value the read takes. -/
def entry? (read : FieldRead) (entries : List (Value × Value)) : Option (Value × Value) :=
  entries.find? fun entry => entry.1.isText read.key

/-- It is the value that the read checks. -/
theorem map_entry? (read : FieldRead) (entries : List (Value × Value)) :
    (read.entry? entries).map (·.2) = Value.lookup read.key entries := rfl

theorem run_eq (read : FieldRead) (fields : Fields) :
    read.run fields = { fields with read := read.key :: fields.read } := by
  cases read <;> rfl

end FieldRead

/-- The fields after reads one after another. -/
def Fields.after (fields : Fields) (reads : List FieldRead) : Fields :=
  reads.foldl FieldRead.run fields

/-- No two keys of a mapping are equal. -/
def KeysDiffer (entries : List (Value × Value)) : Prop :=
  entries.Pairwise fun a b => Value.same a.1 b.1 = false

/-- One of the reads takes the value of the entry. -/
def Consulted (reads : List FieldRead) (entries : List (Value × Value)) (entry : Value × Value) :
    Prop :=
  ∃ read ∈ reads, read.entry? entries = some entry

/-- A key that is no untagged string, shown like the name of a read. -/
def Mistaken (reads : List FieldRead) (key : Value) : Prop :=
  (∀ s, key ≠ .string s) ∧ ∃ read ∈ reads, read.key = Fields.keyName key

variable {entries : List (Value × Value)} {entry : Value × Value} {reads : List FieldRead}

theorem Fields.after_eq (fields : Fields) (reads : List FieldRead) :
    fields.after reads =
      { fields with read := (reads.map FieldRead.key).reverse ++ fields.read } := by
  induction reads generalizing fields with
  | nil => rfl
  | cons read reads ih =>
      rw [Fields.after, List.foldl_cons, ← Fields.after, ih, FieldRead.run_eq]
      simp

/-- The report goes by the names of the reads. -/
theorem unread_after (entries : List (Value × Value)) (reads : List FieldRead) :
    ((Fields.ofEntries entries).after reads).unread =
      (entries.map fun entry => Fields.keyName entry.1).filter
        fun name => name ∉ reads.map FieldRead.key := by
  rw [Fields.after_eq, Fields.unread]
  refine List.filter_congr fun name _ => ?_
  simp [Fields.ofEntries, -List.mem_map]

theorem isText_iff {s : String} {key : Value} : key.isText s = true ↔ key = .string s := by
  cases key <;> simp [Value.isText]

theorem keyName_string (s : String) : Fields.keyName (.string s) = s := rfl

/-- Where keys differ, a read finds every entry whose key is the string it asks for. -/
theorem entry?_eq_some_iff (differ : KeysDiffer entries) (member : entry ∈ entries)
    {read : FieldRead} : read.entry? entries = some entry ↔ entry.1 = .string read.key := by
  unfold FieldRead.entry?
  constructor
  · intro found
    have text := List.find?_some found
    exact isText_iff.mp text
  · intro named
    induction entries with
    | nil => simp at member
    | cons head rest ih =>
        obtain ⟨apart, differ⟩ := List.pairwise_cons.mp differ
        rcases List.mem_cons.mp member with rfl | later
        · simp [isText_iff.mpr named]
        · have other : head.1.isText read.key = false := by
            rw [Bool.eq_false_iff, ne_eq, isText_iff]
            intro equal
            have same := apart entry later
            simp [equal, named, Value.same] at same
          simp [other, ih differ later]

/-- A key is shown like the name of a read if the read took its value, or by mistake. -/
theorem shown_read_iff (differ : KeysDiffer entries) (member : entry ∈ entries) :
    Fields.keyName entry.1 ∈ reads.map FieldRead.key ↔
      Consulted reads entries entry ∨ Mistaken reads entry.1 := by
  rw [List.mem_map]
  constructor
  · rintro ⟨read, among, shown⟩
    by_cases plain : ∃ s, entry.1 = .string s
    · obtain ⟨s, string⟩ := plain
      rw [string, keyName_string] at shown
      exact .inl ⟨read, among, (entry?_eq_some_iff differ member).mpr (shown ▸ string)⟩
    · exact .inr ⟨fun s string => plain ⟨s, string⟩, read, among, shown⟩
  · rintro (⟨read, among, found⟩ | ⟨-, read, among, shown⟩)
    · refine ⟨read, among, ?_⟩
      rw [(entry?_eq_some_iff differ member).mp found, keyName_string]
    · exact ⟨read, among, shown⟩

/-- A mistaken key stands over a value that no read took. -/
theorem not_consulted_of_mistaken (differ : KeysDiffer entries) (member : entry ∈ entries)
    (mistaken : Mistaken reads entry.1) : ¬ Consulted reads entries entry := by
  rintro ⟨read, -, found⟩
  exact mistaken.1 read.key ((entry?_eq_some_iff differ member).mp found)

open Classical in
/-- The report is that of the keys whose values no read took, in their order, less those
that are mistaken for the name of a read. So it has all of the former exactly if no key is
mistaken. -/
theorem unread_eq_unconsulted_iff (differ : KeysDiffer entries) (reads : List FieldRead) :
    ((Fields.ofEntries entries).after reads).unread =
        (entries.filter fun entry => ¬ Consulted reads entries entry ∧
          ¬ Mistaken reads entry.1).map (fun entry => Fields.keyName entry.1) ∧
      (((Fields.ofEntries entries).after reads).unread =
          (entries.filter fun entry => ¬ Consulted reads entries entry).map
            (fun entry => Fields.keyName entry.1) ↔
        ∀ entry ∈ entries, ¬ Mistaken reads entry.1) := by
  have report : ((Fields.ofEntries entries).after reads).unread =
      (entries.filter fun entry => ¬ Consulted reads entries entry ∧
        ¬ Mistaken reads entry.1).map (fun entry => Fields.keyName entry.1) := by
    rw [unread_after, List.filter_map]
    refine congrArg (List.map _) (List.filter_congr fun entry member => ?_)
    simp only [Function.comp_apply, shown_read_iff differ member, not_or]
  refine ⟨report, ?_⟩
  rw [report]
  constructor
  · intro same entry member mistaken
    have unconsulted := not_consulted_of_mistaken differ member mistaken
    -- the first list is a part of the second, and of the same length
    have part := List.monotone_filter_right entries
      (p := fun entry => ¬ Consulted reads entries entry ∧ ¬ Mistaken reads entry.1)
      (q := fun entry => ¬ Consulted reads entries entry) (by simp +contextual)
    have whole := part.eq_of_length (by simpa using congrArg List.length same)
    have kept : entry ∈ entries.filter fun entry => ¬ Consulted reads entries entry := by
      simp [member, unconsulted]
    rw [← whole] at kept
    simp [mistaken] at kept
  · intro none
    refine congrArg (List.map _) (List.filter_congr fun entry member => ?_)
    simp [none entry member]

/-- A key of each kind that a report shows, but no two that it would show alike. -/
def pinAndColour : List (Value × Value) :=
  [(.string "colour", .string "red"), (.string "pin", .integer 3), (.integer 5, .null)]

open Classical in
theorem pinAndColour_unread :
    KeysDiffer pinAndColour ∧
      ((Fields.ofEntries pinAndColour).after [.integer "pin" 0 .any, .flag "level" 0]).unread =
        (pinAndColour.filter fun entry =>
          ¬ Consulted [.integer "pin" 0 .any, .flag "level" 0] pinAndColour entry).map
            fun entry => Fields.keyName entry.1 := by
  have differ : KeysDiffer pinAndColour := by simp [KeysDiffer, pinAndColour, Value.same]
  refine ⟨differ, (unread_eq_unconsulted_iff differ _).2.mpr ?_⟩
  simp only [pinAndColour, List.forall_mem_cons, List.not_mem_nil, false_imp_iff, implies_true,
    and_true]
  refine ⟨fun mistaken => mistaken.1 _ rfl, fun mistaken => mistaken.1 _ rfl, ?_⟩
  rintro ⟨-, shown⟩
  have five : Fields.keyName (.integer 5) = "5" := rfl
  simp [five, FieldRead.key] at shown

/-- A mapping whose only key is the string `pin` under a tag. -/
def taggedPin : List (Value × Value) := [(.tagged ⟨"x"⟩ (.string "pin"), .integer 3)]

open Classical in
/-- After a read of `pin`, which finds nothing, the key is not reported. -/
theorem taggedPin_unreported :
    ¬ ∀ (entries : List (Value × Value)) (reads : List FieldRead), KeysDiffer entries →
      ((Fields.ofEntries entries).after reads).unread =
        (entries.filter fun entry => ¬ Consulted reads entries entry).map
          fun entry => Fields.keyName entry.1 := by
  intro complete
  have differ : KeysDiffer taggedPin := List.pairwise_singleton _ _
  have reported := complete taggedPin [.integer "pin" 0 .any] differ
  have nothing : ((Fields.ofEntries taggedPin).after [.integer "pin" 0 .any]).unread = [] := rfl
  have free : ∀ entry ∈ taggedPin, ¬ Consulted [.integer "pin" 0 .any] taggedPin entry := by
    simp [Consulted, FieldRead.entry?, taggedPin, Value.isText]
  rw [nothing, List.filter_eq_self.mpr (by simpa using free)] at reported
  simp [taggedPin] at reported

end BoardCompiler
