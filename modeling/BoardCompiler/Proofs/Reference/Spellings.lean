/-
# BoardCompiler.Proofs.Reference.Spellings — which values are references

A reference is meant to have two spellings, a name and a mapping with a string under
`name`, whatever else the mapping holds (`Spelled`). A name is read so. A mapping is read
with all of its entries in view (`Read`): nothing in it may bear a tag, every key is a
string or a natural number, and one key only is the name's, which is `name` or the
position `0`.

So some spellings are refused for what stands beside the name (`Overruled`), and some
mappings without `name` are read by position (`Positional`). Apart from these two the
references are the values that are spelled so, and every other value is malformed
(`ofValue_ok_iff_spelled_iff`).
-/
import BoardCompiler.Proofs.Unread
import BoardCompiler.Reference

namespace BoardCompiler

set_option autoImplicit false

open Yaml (Tag Value)

/-! ## Entries by their keys -/

/-- Where keys differ, an entry is found under its own key. -/
theorem lookup_eq_some_iff {entries : List (Value × Value)} (differ : KeysDiffer entries)
    {key : String} {v : Value} :
    Value.lookup key entries = some v ↔ (.string key, v) ∈ entries := by
  induction entries with
  | nil => simp [Value.lookup]
  | cons head rest ih =>
      obtain ⟨apart, differ⟩ := List.pairwise_cons.mp differ
      have tail := ih differ
      unfold Value.lookup at tail ⊢
      rw [List.mem_cons]
      by_cases text : head.1.isText key = true
      · have named := isText_iff.mp text
        rw [List.find?_cons, text, Option.map_some, Option.some.injEq]
        constructor
        · rintro rfl
          exact .inl (Prod.ext named.symm rfl)
        · rintro (same | later)
          · rw [← same]
          · have equal := apart _ later
            simp [named, Value.same] at equal
      · rw [List.find?_cons, eq_false_of_ne_true text, tail]
        refine ⟨.inr, fun member => member.resolve_left ?_⟩
        rintro rfl
        exact text (isText_iff.mpr rfl)

/-- Where keys differ, entries under one key are one entry. -/
theorem eq_singleton_of_one_key {entries : List (Value × Value)} {entry : Value × Value}
    (differ : KeysDiffer entries) (member : entry ∈ entries)
    (same : Value.same entry.1 entry.1 = true) (one : ∀ other ∈ entries, other.1 = entry.1) :
    entries = [entry] := by
  cases entries with
  | nil => simp at member
  | cons head rest =>
      cases rest with
      | nil => rw [List.mem_singleton.mp member]
      | cons next rest =>
          have unequal := List.rel_of_pairwise_cons differ (List.mem_cons_self ..)
          rw [one head (by simp), one next (by simp), same] at unequal
          cases unequal

namespace PeripheralRef

variable {entries : List (Value × Value)} {value : Value} {name : String}

/-! ## What is written and what is read -/

/-- The spellings of a reference: a name, or a mapping with a string under `name`. -/
inductive Spelled : Value → PeripheralRef → Prop
  | bare (name : String) : Spelled (.string name) (.bare name)
  | named {entries : List (Value × Value)} {name : String}
      (under : Value.lookup "name" entries = some (.string name)) :
      Spelled (.mapping entries) (.named name)

/-- A tag stands on the value or somewhere in it. -/
inductive Tagged : Value → Prop
  | here (tag : Tag) (v : Value) : Tagged (.tagged tag v)
  | item {items : List Value} {v : Value} (member : v ∈ items) (inside : Tagged v) :
      Tagged (.sequence items)
  | key {entries : List (Value × Value)} {entry : Value × Value} (member : entry ∈ entries)
      (inside : Tagged entry.1) : Tagged (.mapping entries)
  | value {entries : List (Value × Value)} {entry : Value × Value} (member : entry ∈ entries)
      (inside : Tagged entry.2) : Tagged (.mapping entries)

/-- A string or a natural number. -/
def MemberKey (key : Value) : Prop := (∃ s, key = .string s) ∨ ∃ n : Nat, key = .integer n

/-- The keys under which a name may stand: its word, or its position. -/
def NameKey (key : Value) : Prop := key = .string "name" ∨ key = .integer 0

/-- A mapping is read as a reference to the name. -/
structure Read (entries : List (Value × Value)) (name : String) : Prop where
  untagged : ¬ Tagged (.mapping entries)
  keys : ∀ entry ∈ entries, MemberKey entry.1
  named : ∃ key, NameKey key ∧ (key, .string name) ∈ entries ∧
    ∀ entry ∈ entries, NameKey entry.1 → entry.1 = key

/-- The values that are read as references. -/
inductive Accepted : Value → PeripheralRef → Prop
  | bare (name : String) : Accepted (.string name) (.bare name)
  | named {entries : List (Value × Value)} {name : String} (read : Read entries name) :
      Accepted (.mapping entries) (.named name)

/-! ## Tags -/

mutual

theorem hasTag_iff (v : Value) : hasTag v = true ↔ Tagged v := by
  cases v with
  | tagged tag v => exact iff_of_true rfl (.here tag v)
  | sequence items =>
      rw [hasTag, anyTag_iff]
      constructor
      · rintro ⟨v, member, inside⟩
        exact .item member inside
      · rintro ⟨⟩
        exact ⟨_, ‹_›, ‹_›⟩
  | mapping entries =>
      rw [hasTag, anyEntryTag_iff]
      constructor
      · rintro ⟨entry, member, inside | inside⟩
        · exact .key member inside
        · exact .value member inside
      · rintro (_ | _ | ⟨member, inside⟩ | ⟨member, inside⟩)
        · exact ⟨_, member, .inl inside⟩
        · exact ⟨_, member, .inr inside⟩
  | _ => exact iff_of_false (by simp [hasTag]) nofun

theorem anyTag_iff (items : List Value) : anyTag items = true ↔ ∃ v ∈ items, Tagged v := by
  cases items with
  | nil => simp [anyTag]
  | cons v rest => simp [anyTag, hasTag_iff v, anyTag_iff rest]

theorem anyEntryTag_iff (entries : List (Value × Value)) :
    anyEntryTag entries = true ↔ ∃ entry ∈ entries, Tagged entry.1 ∨ Tagged entry.2 := by
  cases entries with
  | nil => simp [anyEntryTag]
  | cons entry rest =>
      obtain ⟨k, v⟩ := entry
      simp [anyEntryTag, hasTag_iff k, hasTag_iff v, anyEntryTag_iff rest]

end

/-! ## Keys -/

theorem isMemberKey_iff {key : Value} : isMemberKey key = true ↔ MemberKey key := by
  cases key with
  | integer n =>
      simp only [isMemberKey, decide_eq_true_eq, MemberKey, reduceCtorEq, exists_false, false_or,
        Value.integer.injEq]
      exact ⟨fun least => ⟨n.toNat, (Int.toNat_of_nonneg least).symm⟩, by rintro ⟨m, rfl⟩; omega⟩
  | _ => simp [isMemberKey, MemberKey]

theorem isNameKey_iff {key : Value} : isNameKey key = true ↔ NameKey key := by
  cases key <;> simp [isNameKey, NameKey]

theorem same_of_nameKey {key : Value} (names : NameKey key) : Value.same key key = true := by
  rcases names with rfl | rfl <;> simp [Value.same]

/-- A mapping whose keys differ has one entry at most under each of the name's keys. -/
theorem nameOf?_eq_some_iff (differ : KeysDiffer entries) :
    nameOf? entries = some name ↔
      (∀ entry ∈ entries, MemberKey entry.1) ∧
        ∃ key, NameKey key ∧ (key, .string name) ∈ entries ∧
          ∀ entry ∈ entries, NameKey entry.1 → entry.1 = key := by
  unfold nameOf?
  by_cases keys : (entries.all fun entry => isMemberKey entry.1) = true
  · have members : ∀ entry ∈ entries, MemberKey entry.1 := fun entry member =>
      isMemberKey_iff.mp (List.all_eq_true.mp keys entry member)
    rw [if_pos keys]
    constructor
    · intro found
      split at found
      next key text single =>
        cases found
        have only : ∀ entry, entry = (key, .string name) ↔ entry ∈ entries ∧ NameKey entry.1 := by
          intro entry
          rw [← List.mem_singleton, ← single, List.mem_filter, isNameKey_iff]
        obtain ⟨member, names⟩ := (only _).mp rfl
        refine ⟨members, key, names, member, fun entry other otherNames => ?_⟩
        rw [(only entry).mpr ⟨other, otherNames⟩]
      · cases found
    · rintro ⟨-, key, names, member, alone⟩
      have single : (entries.filter fun entry => isNameKey entry.1) = [(key, .string name)] := by
        refine eq_singleton_of_one_key (differ.filter _)
          (List.mem_filter.mpr ⟨member, isNameKey_iff.mpr names⟩) (same_of_nameKey names) ?_
        intro entry among
        obtain ⟨other, otherNames⟩ := List.mem_filter.mp among
        exact alone entry other (isNameKey_iff.mp otherNames)
      rw [single]
  · rw [if_neg keys]
    refine iff_of_false nofun ?_
    rintro ⟨members, -⟩
    exact keys (List.all_eq_true.mpr fun entry member => isMemberKey_iff.mpr (members entry member))

/-! ## References -/

theorem ofValue?_eq_some_iff {ref : PeripheralRef}
    (differ : ∀ entries, value = .mapping entries → KeysDiffer entries) :
    ofValue? value = some ref ↔ Accepted value ref := by
  cases value with
  | string s =>
      constructor
      · rintro ⟨⟩
        exact .bare s
      · rintro ⟨⟩
        rfl
  | mapping entries =>
      have named : ∀ name, nameOf? entries = some name ↔ _ := fun _ =>
        nameOf?_eq_some_iff (differ entries rfl)
      by_cases tagged : Tagged (.mapping entries)
      · have hasTag := (hasTag_iff _).mpr tagged
        refine iff_of_false (by simp [ofValue?, hasTag]) ?_
        rintro ⟨⟩
        exact Read.untagged ‹_› tagged
      · have untagged : hasTag (.mapping entries) = false := by
          rw [Bool.eq_false_iff, ne_eq, hasTag_iff]
          exact tagged
        simp only [ofValue?, untagged, Bool.false_eq_true, if_false, Option.map_eq_some_iff, named]
        constructor
        · rintro ⟨name, ⟨keys, under⟩, rfl⟩
          exact .named ⟨tagged, keys, under⟩
        · rintro (_ | ⟨read⟩)
          exact ⟨_, ⟨read.keys, read.named⟩, rfl⟩
  | tagged tag v => exact iff_of_false (by simp [ofValue?, hasTag]) nofun
  | sequence items => exact iff_of_false (by simp [ofValue?]) nofun
  | _ => exact iff_of_false (by simp [ofValue?, hasTag]) nofun

/-- A name is spelled, and what stands beside it refuses the reference. -/
def Overruled (entries : List (Value × Value)) : Prop :=
  (∃ name, Value.lookup "name" entries = some (.string name)) ∧
    (Tagged (.mapping entries) ∨ ∃ entry ∈ entries, ¬ MemberKey entry.1 ∨ entry.1 = .integer 0)

/-- No key is `name`, and a name is read by its position. -/
def Positional (entries : List (Value × Value)) : Prop :=
  Value.lookup "name" entries = none ∧ ∃ name, Read entries name

theorem Overruled.not_read (overruled : Overruled entries) : ¬ Read entries name := by
  intro read
  obtain ⟨⟨other, word⟩, beside⟩ := overruled
  rcases beside with tagged | ⟨entry, member, strange | position⟩
  · exact read.untagged tagged
  · exact strange (read.keys entry member)
  · obtain ⟨key, -, -, alone⟩ := read.named
    obtain ⟨found, hit, -⟩ := Option.map_eq_some_iff.mp word
    have text := List.find?_some hit
    have named : found.1 = .string "name" := isText_iff.mp text
    have first := alone found (List.mem_of_find?_eq_some hit) (.inl named)
    have second := alone entry member (.inr position)
    rw [named] at first
    rw [position, ← first] at second
    cases second

/-- Beside the two exceptions, a mapping is read as it is spelled. -/
theorem read_iff_lookup (differ : KeysDiffer entries) (free : ¬ Overruled entries)
    (worded : ¬ Positional entries) :
    Read entries name ↔ Value.lookup "name" entries = some (.string name) := by
  constructor
  · intro read
    obtain ⟨key, names, member, alone⟩ := read.named
    rcases names with rfl | rfl
    · exact (lookup_eq_some_iff differ).mpr member
    · refine absurd ⟨?_, name, read⟩ worded
      refine Option.eq_none_iff_forall_ne_some.mpr fun v word => ?_
      have other := alone _ ((lookup_eq_some_iff differ).mp word) (.inl rfl)
      cases other
  · intro word
    have beside := fun fault => free ⟨⟨name, word⟩, fault⟩
    refine ⟨fun tagged => beside (.inl tagged), fun entry member => ?_, .string "name", .inl rfl,
      (lookup_eq_some_iff differ).mp word, fun entry member names => ?_⟩
    · by_contra strange
      exact beside (.inr ⟨entry, member, .inl strange⟩)
    · exact names.resolve_right fun position => beside (.inr ⟨entry, member, .inr position⟩)

theorem ofValue_eq_ok_iff {ref : PeripheralRef} :
    ofValue value = .ok ref ↔ ofValue? value = some ref := by
  unfold ofValue
  cases ofValue? value <;> simp

/-- The references are the values that are accepted, and every other value is malformed.
They are the values spelled as references, exactly if a mapping is neither overruled nor
read by position. -/
theorem ofValue_ok_iff_spelled_iff
    (differ : ∀ entries, value = .mapping entries → KeysDiffer entries) :
    (∀ ref, ofValue value = .ok ref ↔ Accepted value ref) ∧
      ((∀ ref, ¬ Accepted value ref) → ofValue value = .error (.malformed
        ("peripheral reference must be a name or a mapping with a 'name' key, found " ++
          value.describe))) ∧
      ((∀ ref, ofValue value = .ok ref ↔ Spelled value ref) ↔
        ∀ entries, value = .mapping entries → ¬ Overruled entries ∧ ¬ Positional entries) := by
  have accepts : ∀ ref, ofValue value = .ok ref ↔ Accepted value ref := fun ref =>
    ofValue_eq_ok_iff.trans (ofValue?_eq_some_iff differ)
  refine ⟨accepts, fun none => ?_, ?_⟩
  · have nothing : ofValue? value = .none := Option.eq_none_iff_forall_ne_some.mpr fun ref some =>
      none ref ((ofValue?_eq_some_iff differ).mp some)
    rw [ofValue, nothing]
  · simp only [accepts]
    constructor
    · rintro agree entries rfl
      constructor
      · intro overruled
        obtain ⟨name, word⟩ := overruled.1
        have accepted := (agree (.named name)).mpr (.named word)
        cases accepted with
        | named read => exact overruled.not_read read
      · rintro ⟨absent, name, read⟩
        have spelled := (agree (.named name)).mp (.named read)
        cases spelled with
        | named word =>
            rw [absent] at word
            cases word
    · intro exceptions ref
      constructor
      · rintro (⟨name⟩ | ⟨read⟩)
        · exact .bare name
        · obtain ⟨free, worded⟩ := exceptions _ rfl
          exact .named ((read_iff_lookup (differ _ rfl) free worded).mp read)
      · rintro (⟨name⟩ | ⟨word⟩)
        · exact .bare name
        · obtain ⟨free, worded⟩ := exceptions _ rfl
          exact .named ((read_iff_lookup (differ _ rfl) free worded).mpr word)

/-- A reference with a note on the peripheral's part. -/
def withRole (role : Value) : List (Value × Value) :=
  [(.string "role", role), (.string "name", .string "gpio-0")]

theorem withRole_differ (role : Value) : KeysDiffer (withRole role) := by
  simp [KeysDiffer, withRole, Value.same]

/-- A note that is plain text is looked over. -/
theorem outputRole_read :
    KeysDiffer (withRole (.string "output")) ∧
      ∀ ref, ofValue (.mapping (withRole (.string "output"))) = .ok ref ↔
        Spelled (.mapping (withRole (.string "output"))) ref := by
  have differ := withRole_differ (.string "output")
  refine ⟨differ, (ofValue_ok_iff_spelled_iff ?_).2.2.mpr ?_⟩
  · rintro _ ⟨⟩
    exact differ
  · rintro _ ⟨⟩
    refine ⟨?_, fun positional => nomatch positional.1⟩
    rintro ⟨-, tagged | ⟨entry, member, strange⟩⟩
    · exact absurd ((hasTag_iff _).mpr tagged) (by decide)
    · have text : ∃ s, entry.1 = .string s := by
        rcases List.mem_cons.mp member with rfl | member
        · exact ⟨_, rfl⟩
        · exact ⟨_, congrArg Prod.fst (List.mem_singleton.mp member)⟩
      obtain ⟨s, string⟩ := text
      rcases strange with strange | position
      · exact strange (.inl ⟨s, string⟩)
      · rw [string] at position
        cases position

/-- A tag on the note refuses the reference. -/
theorem taggedRole_refused :
    ¬ ∀ value ref, (∀ entries, value = .mapping entries → KeysDiffer entries) →
      (ofValue value = .ok ref ↔ Spelled value ref) := by
  intro always
  have read := (always (.mapping (withRole (.tagged ⟨"x"⟩ (.string "output")))) (.named "gpio-0")
    (by rintro _ ⟨⟩; exact withRole_differ _)).mpr (.named rfl)
  cases read

end PeripheralRef

end BoardCompiler
