/-
# BoardCompiler.Proofs.Toml.Distinct — no table has a key twice

A document gives each key of a table once, and the tree that is read from it shows that
(`distinct_of_ofToml?`). Entries that are `Unrepeated` stay so when one of a new key is
added, one is replaced or one is taken out, and so do those of all tables when there is work
at the end of a way (`descend_unrepeated`). A table that is closed adds its entry unasked:
its key is free there, since opening it has taken out what a header of an inner table had
put in its place (`find?_of_erased`).
-/
import BoardCompiler.Proofs.Toml.Standing
import Mathlib.Data.List.Nodup

namespace BoardCompiler.Toml

set_option autoImplicit false

/-- No table in the value has a key twice. -/
inductive Value.Distinct : Value → Prop where
  | string {span : Span} {text : String} : Distinct (.string span text)
  | integer {span : Span} {n : Int} : Distinct (.integer span n)
  | float {span : Span} {x : Binary64} : Distinct (.float span x)
  | boolean {span : Span} {b : Bool} : Distinct (.boolean span b)
  | dateTime {span : Span} {text : String} : Distinct (.dateTime span text)
  | array {span : Option Span} {items : List Value} :
      (∀ v ∈ items, v.Distinct) → Distinct (.array span items)
  | table {span : Option Span} {entries : List (Key × Value)} :
      (entries.map (·.1.text)).Nodup → (∀ entry ∈ entries, entry.2.Distinct) →
      Distinct (.table span entries)

/-! ## Entries -/

namespace Draft

/-- No table in the draft has a key twice. -/
inductive Distinct : Draft → Prop where
  | closed {value : Value} : value.Distinct → Distinct (.closed value)
  | table {origin : Origin} {span : Option Span} {entries : Entries} :
      (entries.map (·.1.text)).Nodup → (∀ entry ∈ entries, entry.2.Distinct) →
      Distinct (.table origin span entries)
  | tables {items : List Draft} : (∀ item ∈ items, item.Distinct) → Distinct (.tables items)

/-- The keys of entries differ, and so do those of the tables in them. -/
structure Unrepeated (entries : Entries) : Prop where
  nodup : (entries.map (·.1.text)).Nodup
  each : ∀ entry ∈ entries, entry.2.Distinct

variable {name : String} {entries entries' : Entries} {draft : Draft}

theorem unrepeated_nil : Unrepeated [] := ⟨List.nodup_nil, nofun⟩

theorem distinct_table_iff {origin : Origin} {span : Option Span} :
    (Draft.table origin span entries).Distinct ↔ Unrepeated entries :=
  ⟨fun | .table nodup each => ⟨nodup, each⟩, fun ⟨nodup, each⟩ => .table nodup each⟩

theorem get?_append_self {key : Key} (absent : get? key.text entries = none) :
    get? key.text (entries ++ [(key, draft)]) = some draft := by
  have passed : entries.find? (fun entry => entry.1.text == key.text) = none := by
    simpa [get?] using absent
  simp [get?, List.find?_append, passed]

theorem get?_replace_self {old : Draft} (found : get? name entries = some old) :
    get? name (replace name draft entries) = some draft := by
  induction entries with
  | nil => cases found
  | cons entry entries ih =>
      by_cases here : entry.1.text = name
      · simp [get?, replace, here]
      · have later : get? name entries = some old := by simpa [get?, here] using found
        simpa [get?, replace, here] using ih later

theorem get?_erase_self : get? name (erase name entries) = none := by
  simp [get?_eq_none_iff, erase]

namespace Unrepeated

theorem of_get? (unrepeated : Unrepeated entries) (found : get? name entries = some draft) :
    draft.Distinct := by
  obtain ⟨key, member, -⟩ := mem_of_get? found
  exact unrepeated.each _ member

theorem append (unrepeated : Unrepeated entries) {key : Key}
    (absent : get? key.text entries = none) (distinct : draft.Distinct) :
    Unrepeated (entries ++ [(key, draft)]) := by
  constructor
  · have new : key.text ∉ entries.map (·.1.text) := by
      rintro known
      obtain ⟨entry, member, same⟩ := List.mem_map.mp known
      exact get?_eq_none_iff.mp absent entry member same
    rw [List.map_append, List.nodup_append_comm]
    exact List.nodup_cons.mpr ⟨new, unrepeated.nodup⟩
  · intro entry member
    rcases List.mem_append.mp member with old | new
    · exact unrepeated.each entry old
    · cases List.mem_singleton.mp new
      exact distinct

theorem replace (unrepeated : Unrepeated entries) (distinct : draft.Distinct) :
    Unrepeated (Draft.replace name draft entries) := by
  constructor
  · have keys : (Draft.replace name draft entries).map (·.1.text) = entries.map (·.1.text) := by
      rw [Draft.replace, List.map_map]
      refine List.map_congr_left fun entry _ => ?_
      by_cases here : entry.1.text = name <;> simp [here]
    rw [keys]
    exact unrepeated.nodup
  · intro entry replaced
    obtain ⟨old, member, rfl⟩ := List.mem_map.mp replaced
    split
    · exact distinct
    · exact unrepeated.each old member

theorem erase (unrepeated : Unrepeated entries) : Unrepeated (Draft.erase name entries) :=
  ⟨unrepeated.nodup.sublist (List.filter_sublist.map _),
    fun entry member => unrepeated.each entry (List.mem_filter.mp member).1⟩

end Unrepeated

/-! ## Work at the end of a way -/

theorem find?_nil (way : List Key) : find? way name [] = none := by
  cases way <;> rfl

/-- Work at the end of a way repeats no key if it does not do so there. -/
theorem descend_unrepeated {made : Origin} {work : Origin → Entries → Option Entries}
    {way : List Key} {origin : Origin}
    (keeps : ∀ origin inner inner', Unrepeated inner →
      (∀ name, get? name inner = find? way name entries) →
        work origin inner = some inner' → Unrepeated inner')
    (unrepeated : Unrepeated entries)
    (worked : descend made way work origin entries = some entries') : Unrepeated entries' := by
  induction way generalizing origin entries entries' with
  | nil => exact keeps origin entries entries' unrepeated (fun _ => rfl) worked
  | cons key way ih =>
      unfold descend at worked
      split at worked
      · next absent =>
          obtain ⟨inner, below, made⟩ := Option.bind_eq_some_iff.mp worked
          cases made
          refine unrepeated.append absent (distinct_table_iff.mpr (ih ?_ unrepeated_nil below))
          intro origin inner inner' unrepeated found
          refine keeps origin inner inner' unrepeated fun name => ?_
          rw [found, find?_nil, find?, absent]
      · cases worked
      · next origin span inner found =>
          split at worked
          · cases worked
          obtain ⟨inner', below, made⟩ := Option.bind_eq_some_iff.mp worked
          cases made
          have distinct := distinct_table_iff.mp (unrepeated.of_get? found)
          refine unrepeated.replace (distinct_table_iff.mpr (ih ?_ distinct below))
          intro origin inner inner' unrepeated found'
          refine keeps origin inner inner' unrepeated fun name => ?_
          rw [found', find?, found]
      · next items found =>
          split at worked
          · next origin span inner last =>
              obtain ⟨inner', below, made⟩ := Option.bind_eq_some_iff.mp worked
              cases made
              cases unrepeated.of_get? found with
              | tables each =>
              have distinct := distinct_table_iff.mp (each _ (List.mem_of_getLast? last))
              have below := ih (fun origin inner inner' unrepeated found' =>
                keeps origin inner inner' unrepeated fun name => by
                  rw [found', find?, found]
                  simp only [last]) distinct below
              refine unrepeated.replace (.tables fun item member => ?_)
              rcases List.mem_append.mp member with old | new
              · exact each item (List.dropLast_subset items old)
              · cases List.mem_singleton.mp new
                exact distinct_table_iff.mpr below
          · cases worked

theorem find?_distinct {way : List Key} (unrepeated : Unrepeated entries)
    (found : find? way name entries = some draft) : draft.Distinct := by
  induction way generalizing entries with
  | nil => exact unrepeated.of_get? found
  | cons key way ih =>
      unfold find? at found
      split at found
      · next first => exact ih (distinct_table_iff.mp (unrepeated.of_get? first)) found
      · next items first =>
          split at found
          · next last =>
              cases unrepeated.of_get? first with
              | tables each =>
              exact ih (distinct_table_iff.mp (each _ (List.mem_of_getLast? last))) found
          · cases found
      · cases found

/-- What is taken out at the end of a way is not there any more. -/
theorem find?_of_erased {way : List Key} {origin : Origin}
    (erased : descend .implied way (fun _ inner => some (erase name inner)) origin entries =
      some entries') : find? way name entries' = none := by
  induction way generalizing origin entries entries' with
  | nil =>
      cases erased
      exact get?_erase_self
  | cons key way ih =>
      unfold descend at erased
      split at erased
      · next absent =>
          obtain ⟨inner, below, made⟩ := Option.bind_eq_some_iff.mp erased
          cases made
          rw [find?, get?_append_self absent]
          exact ih below
      · cases erased
      · next origin span inner found =>
          split at erased
          · cases erased
          obtain ⟨inner', below, made⟩ := Option.bind_eq_some_iff.mp erased
          cases made
          rw [find?, get?_replace_self found]
          exact ih below
      · next items found =>
          split at erased
          · obtain ⟨inner', below, made⟩ := Option.bind_eq_some_iff.mp erased
            cases made
            rw [find?, get?_replace_self found]
            simp only [List.getLast?_concat]
            exact ih below
          · cases erased

theorem insertPair_unrepeated {way : List Key} {key : Key} {value : Value}
    (unrepeated : Unrepeated entries) (distinct : value.Distinct)
    (inserted : insertPair way key value entries = some entries') : Unrepeated entries' := by
  refine descend_unrepeated ?_ unrepeated inserted
  intro origin inner inner' unrepeated _ worked
  split_ifs at worked with there
  cases worked
  exact unrepeated.append (by simpa using there) (.closed distinct)

/-! ## Trees -/

theorem toValues_eq_map (entries : Entries) :
    toValues entries = entries.map fun entry => (entry.1, entry.2.toValue) := by
  induction entries with
  | nil => rfl
  | cons entry entries ih => rw [toValues, ih, List.map_cons]

theorem toItems_eq_map (items : List Draft) : toItems items = items.map toValue := by
  induction items with
  | nil => rfl
  | cons item items ih => rw [toItems, ih, List.map_cons]

theorem Distinct.toValue (distinct : draft.Distinct) : draft.toValue.Distinct := by
  induction distinct with
  | closed distinct => exact distinct
  | @table origin span entries nodup _ ih =>
      rw [Draft.toValue, toValues_eq_map]
      refine .table (by simpa [Function.comp_def] using nodup) ?_
      intro entry member
      obtain ⟨old, among, rfl⟩ := List.mem_map.mp member
      exact ih old among
  | @tables items _ ih =>
      rw [Draft.toValue, toItems_eq_map]
      refine .array ?_
      intro v member
      obtain ⟨item, among, rfl⟩ := List.mem_map.mp member
      exact ih item among

end Draft

open Draft (Unrepeated)

/-! ## Values -/

namespace Reader

variable {α : Type} {text rest : List Char} {item : Reader Value}

theorem leaf_distinct {v : Value} (read : leaf text = some (v, rest)) : v.Distinct := by
  obtain ⟨next, _, -, read⟩ := bind_eq_some_iff.mp read
  split at read
  · obtain ⟨⟨said, span⟩, _, -, made⟩ := bind_eq_some_iff.mp read
    cases made
    exact .string
  · obtain ⟨⟨said, span⟩, _, -, made⟩ := bind_eq_some_iff.mp read
    cases made
    cases said with
    | integer n => exact .integer
    | float x => exact .float
    | boolean b => exact .boolean
    | dateTime text => exact .dateTime

section

variable (each : ∀ {text rest v}, item text = some (v, rest) → v.Distinct)
include each

theorem items_distinct {fuel : Nat} {items : List Value}
    (read : Reader.items item fuel text = some (items, rest)) : ∀ v ∈ items, v.Distinct := by
  induction fuel generalizing text items with
  | zero => cases read
  | succ fuel ih =>
      obtain ⟨_, _, -, read⟩ := bind_eq_some_iff.mp read
      obtain ⟨next, _, -, read⟩ := bind_eq_some_iff.mp read
      split at read
      · obtain ⟨_, _, -, made⟩ := bind_eq_some_iff.mp read
        cases made
        exact nofun
      obtain ⟨v, _, first, read⟩ := bind_eq_some_iff.mp read
      obtain ⟨_, _, -, read⟩ := bind_eq_some_iff.mp read
      obtain ⟨next, _, -, read⟩ := bind_eq_some_iff.mp read
      split at read
      · obtain ⟨_, _, -, read⟩ := bind_eq_some_iff.mp read
        obtain ⟨more, _, later, made⟩ := bind_eq_some_iff.mp read
        cases made
        exact List.forall_mem_cons.mpr ⟨each first, ih later⟩
      · obtain ⟨_, _, -, made⟩ := bind_eq_some_iff.mp read
        cases made
        exact List.forall_mem_cons.mpr ⟨each first, nofun⟩

theorem pair_distinct {way : List Key} {name : Key} {v : Value}
    (read : pair item text = some ((way, name, v), rest)) : v.Distinct := by
  obtain ⟨between, -, valued⟩ := pair_eq_some_iff.mp read
  exact each valued

theorem pairs_unrepeated {fuel : Nat} {entries entries' : Draft.Entries}
    (unrepeated : Unrepeated entries)
    (read : pairs item fuel entries text = some (entries', rest)) : Unrepeated entries' := by
  induction fuel generalizing text entries with
  | zero => cases read
  | succ fuel ih =>
      obtain ⟨⟨way, name, v⟩, _, paired, read⟩ := bind_eq_some_iff.mp read
      obtain ⟨_, _, -, read⟩ := bind_eq_some_iff.mp read
      cases inserted : Draft.insertPair way name v entries with
      | none =>
          rw [inserted] at read
          cases read
      | some between =>
          have unrepeated := Draft.insertPair_unrepeated unrepeated (pair_distinct each paired)
            inserted
          rw [inserted] at read
          obtain ⟨next, _, -, read⟩ := bind_eq_some_iff.mp read
          split at read
          · obtain ⟨_, _, -, read⟩ := bind_eq_some_iff.mp read
            exact ih unrepeated read
          · obtain ⟨_, _, -, made⟩ := bind_eq_some_iff.mp read
            cases made
            exact unrepeated

theorem inlineTable_unrepeated {entries : Draft.Entries}
    (read : inlineTable item text = some (entries, rest)) : Unrepeated entries := by
  obtain ⟨_, _, -, read⟩ := bind_eq_some_iff.mp read
  obtain ⟨_, _, -, read⟩ := bind_eq_some_iff.mp read
  obtain ⟨next, _, -, read⟩ := bind_eq_some_iff.mp read
  split at read
  · obtain ⟨_, _, -, made⟩ := bind_eq_some_iff.mp read
    cases made
    exact Draft.unrepeated_nil
  · obtain ⟨left, _, -, read⟩ := bind_eq_some_iff.mp read
    exact pairs_unrepeated each Draft.unrepeated_nil read

theorem array_distinct {items : List Value}
    (read : array item text = some (items, rest)) : ∀ v ∈ items, v.Distinct := by
  obtain ⟨_, _, -, read⟩ := bind_eq_some_iff.mp read
  obtain ⟨left, _, -, read⟩ := bind_eq_some_iff.mp read
  exact items_distinct each read

end

theorem value_distinct {depth : Nat} {v : Value}
    (read : Reader.value depth text = some (v, rest)) : v.Distinct := by
  induction depth generalizing text rest v with
  | zero => exact leaf_distinct read
  | succ depth ih =>
      obtain ⟨next, _, -, read⟩ := bind_eq_some_iff.mp read
      split at read
      · obtain ⟨⟨items, span⟩, _, inner, made⟩ := bind_eq_some_iff.mp read
        cases made
        exact .array (array_distinct ih (spanned_eq_some_iff.mp inner).1)
      · obtain ⟨⟨entries, span⟩, _, inner, made⟩ := bind_eq_some_iff.mp read
        cases made
        have unrepeated := inlineTable_unrepeated ih (spanned_eq_some_iff.mp inner).1
        have table : (Draft.table .written (some span) entries).Distinct :=
          Draft.distinct_table_iff.mpr unrepeated
        exact table.toValue
      · exact leaf_distinct read

end Reader

/-! ## Lines -/

namespace Progress

variable {p p' : Progress} {closed : Draft.Entries}

/-- Neither the closed tables nor the one that is being read has a key twice, and the place
of the latter is free. -/
structure Distinct (p : Progress) : Prop where
  closed : Unrepeated p.closed
  entries : Unrepeated p.entries
  vacant : ∀ way name, p.place = .table way name → Draft.find? way name.text p.closed = none

theorem distinct_start (length : Nat) : (start length).Distinct :=
  ⟨Draft.unrepeated_nil, Draft.unrepeated_nil, nofun⟩

theorem Distinct.draft (distinct : p.Distinct) : p.draft.Distinct :=
  Draft.distinct_table_iff.mpr distinct.entries

theorem Distinct.close (distinct : p.Distinct) (close : p.close? = some closed) :
    Unrepeated closed := by
  unfold close? at close
  split at close
  · cases close
    exact distinct.entries
  · next way name place =>
      refine Draft.descend_unrepeated ?_ distinct.closed close
      intro origin inner inner' unrepeated found worked
      cases worked
      exact unrepeated.append ((found name.text).trans (distinct.vacant way name place))
        distinct.draft
  · next way name place =>
      refine Draft.descend_unrepeated ?_ distinct.closed close
      intro origin inner inner' unrepeated _ worked
      split at worked
      · next items found =>
          cases worked
          cases unrepeated.of_get? found with
          | tables each =>
          refine unrepeated.replace (.tables fun item member => ?_)
          rcases List.mem_append.mp member with old | new
          · exact each item old
          · cases List.mem_singleton.mp new
            exact distinct.draft
      · cases worked

theorem distinct_of_openTable? {way : List Key} {header : Key} {span : Span}
    (unrepeated : Unrepeated closed) (opened : p.openTable? way header span closed = some p') :
    p'.Distinct := by
  obtain ⟨closed', entries, rfl, named, erased⟩ := openTable?_eq_some opened
  constructor
  · refine Draft.descend_unrepeated ?_ unrepeated erased
    intro origin inner inner' unrepeated _ worked
    cases worked
    exact unrepeated.erase
  · rcases named with ⟨-, rfl⟩ | ⟨span, implied⟩
    · exact Draft.unrepeated_nil
    · exact Draft.distinct_table_iff.mp (Draft.find?_distinct unrepeated implied)
  · rintro _ _ ⟨⟩
    exact Draft.find?_of_erased erased

theorem distinct_of_openItem? {way : List Key} {header : Key} {span : Span}
    (unrepeated : Unrepeated closed) (opened : p.openItem? way header span closed = some p') :
    p'.Distinct := by
  obtain ⟨closed', added, made⟩ := Option.bind_eq_some_iff.mp opened
  cases made
  refine ⟨Draft.descend_unrepeated ?_ unrepeated added, Draft.unrepeated_nil, nofun⟩
  intro origin inner inner' unrepeated _ worked
  split at worked
  · next absent =>
      cases worked
      exact unrepeated.append absent (.tables nofun)
  · cases worked
    exact unrepeated
  · cases worked

theorem Distinct.insert {way : List Key} {key : Key} {added : Value} (distinct : p.Distinct)
    (value : added.Distinct) (inserted : p.insert? way key added = some p') : p'.Distinct := by
  obtain ⟨entries, paired, made⟩ := Option.bind_eq_some_iff.mp inserted
  cases made
  exact ⟨distinct.closed, Draft.insertPair_unrepeated distinct.entries value paired,
    distinct.vacant⟩

end Progress

namespace Reader

variable {p p' : Progress} {text rest : List Char}

theorem line_distinct (distinct : p.Distinct) (read : Reader.line p text = some (p', rest)) :
    p'.Distinct := by
  rcases line_cases read with rfl | ⟨closed, way, header, span, close, opened | opened⟩ |
    ⟨way, name, added, _, _, paired, inserted⟩
  · exact distinct
  · exact Progress.distinct_of_openTable? (distinct.close close) opened
  · exact Progress.distinct_of_openItem? (distinct.close close) opened
  · exact distinct.insert (pair_distinct value_distinct paired) inserted

theorem lines_distinct {fuel : Nat} (distinct : p.Distinct)
    (read : lines fuel p text = some (p', rest)) : p'.Distinct :=
  lines_keep line_distinct distinct read

end Reader

/-- No table of a document has a key twice. -/
theorem Value.distinct_of_ofToml? {text : String} {document : Value}
    (read : ofToml? text = some document) : document.Distinct := by
  obtain ⟨p, rest, entries, lines, close, rfl⟩ := ofToml?_eq_some_iff.mp read
  have unrepeated := (Reader.lines_distinct (Progress.distinct_start _) lines).close close
  have table : (Draft.table .written (some p.rootSpan) entries).Distinct :=
    Draft.distinct_table_iff.mpr unrepeated
  exact table.toValue

end BoardCompiler.Toml
