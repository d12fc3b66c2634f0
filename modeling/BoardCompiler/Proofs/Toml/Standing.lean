/-
# BoardCompiler.Proofs.Toml.Standing — what a document has said stands

A value under a way of tables that have headers of their own is `Settled`: no other entry
has its name, and no other table takes the place of one on its way. Whatever works on the
tables at the end of a way keeps it settled if it does so there (`descend_keeps`). While a
document is read the value of a pair under a header `Holds`: closing a table, opening
another and adding a pair all keep it, and so does every line (`lines_holds`).
-/
import BoardCompiler.Proofs.Toml.Lines
import Mathlib.Tactic.SplitIfs

namespace BoardCompiler.Toml

set_option autoImplicit false

namespace Draft

variable {name other : String} {P : Draft → Prop} {entries : Entries} {draft : Draft}

/-! ## Entries of a name -/

/-- There are entries of a name, and all of them are as said. -/
def Sole (name : String) (P : Draft → Prop) (entries : Entries) : Prop :=
  (∃ entry ∈ entries, entry.1.text = name) ∧ ∀ entry ∈ entries, entry.1.text = name → P entry.2

theorem get?_eq_none_iff : get? name entries = none ↔ ∀ entry ∈ entries, entry.1.text ≠ name := by
  simp [get?]

theorem mem_of_get? (found : get? name entries = some draft) :
    ∃ key, (key, draft) ∈ entries ∧ key.text = name := by
  obtain ⟨⟨key, draft⟩, first, rfl⟩ := Option.map_eq_some_iff.mp found
  exact ⟨key, List.mem_of_find?_eq_some first, by simpa using List.find?_some first⟩

namespace Sole

theorem get?_ne_none (sole : Sole name P entries) : get? name entries ≠ none := by
  obtain ⟨⟨entry, member, named⟩, -⟩ := sole
  exact fun absent => get?_eq_none_iff.mp absent entry member named

theorem of_get? (sole : Sole name P entries) (found : get? name entries = some draft) :
    P draft := by
  obtain ⟨key, member, rfl⟩ := mem_of_get? found
  exact sole.2 _ member rfl

theorem exists_get? (sole : Sole name P entries) :
    ∃ draft, get? name entries = some draft ∧ P draft := by
  obtain ⟨draft, found⟩ := Option.ne_none_iff_exists'.mp sole.get?_ne_none
  exact ⟨draft, found, sole.of_get? found⟩

theorem of_absent {key : Key} (absent : get? key.text entries = none) (holds : P draft) :
    Sole key.text P (entries ++ [(key, draft)]) := by
  refine ⟨⟨(key, draft), by simp, rfl⟩, ?_⟩
  intro entry member named
  rcases List.mem_append.mp member with old | new
  · exact absurd named (get?_eq_none_iff.mp absent entry old)
  · cases List.mem_singleton.mp new
    exact holds

theorem append (sole : Sole name P entries) {key : Key} (ne : key.text ≠ name) :
    Sole name P (entries ++ [(key, draft)]) := by
  obtain ⟨⟨entry, member, named⟩, all⟩ := sole
  refine ⟨⟨entry, List.mem_append_left _ member, named⟩, ?_⟩
  intro entry member named
  rcases List.mem_append.mp member with old | new
  · exact all entry old named
  · cases List.mem_singleton.mp new
    exact absurd named ne

theorem replace (sole : Sole name P entries) (holds : other = name → P draft) :
    Sole name P (Draft.replace other draft entries) := by
  obtain ⟨⟨entry, member, named⟩, all⟩ := sole
  refine ⟨⟨_, List.mem_map_of_mem member, by split <;> exact named⟩, ?_⟩
  intro entry replaced named
  obtain ⟨old, member, rfl⟩ := List.mem_map.mp replaced
  split at named
  · next is =>
      rw [if_pos is]
      exact holds ((eq_of_beq is).symm.trans named)
  · next isNot =>
      rw [if_neg isNot]
      exact all old member named

theorem erase (sole : Sole name P entries) (ne : other ≠ name) :
    Sole name P (Draft.erase other entries) := by
  obtain ⟨⟨entry, member, named⟩, all⟩ := sole
  refine ⟨⟨entry, List.mem_filter.mpr ⟨member, ?_⟩, named⟩, ?_⟩
  · simpa [named] using ne.symm
  · exact fun entry member => all entry (List.mem_filter.mp member).1

end Sole

/-! ## Values under ways -/

/-- A value under a way of tables that are written, without another entry of its name or
of the name of a table on its way. -/
def Settled (value : Value) : List String → Draft → Prop
  | [], draft => draft = .closed value
  | name :: path, draft =>
    ∃ span entries, draft = .table .written span entries ∧ Sole name (Settled value path) entries

variable {value : Value}

theorem not_settled_tables {path : List String} {items : List Draft} :
    ¬ Settled value path (.tables items) := by
  cases path with
  | nil => simp [Settled]
  | cons name path => simp [Settled]

/-- Working on the table at the end of a way keeps a value settled if the work does so
where the way ends on the way to the value. -/
theorem descend_keeps {made : Origin} {work : Origin → Entries → Option Entries}
    {way : List Key} {path : List String} {origin : Origin} {entries entries' : Entries}
    (keeps : ∀ name' path', way.map (·.text) ++ name' :: path' = name :: path →
      ∀ origin entries entries', Sole name' (Settled value path') entries →
        work origin entries = some entries' → Sole name' (Settled value path') entries')
    (settled : Sole name (Settled value path) entries)
    (worked : descend made way work origin entries = some entries') :
    Sole name (Settled value path) entries' := by
  induction way generalizing name path origin entries entries' with
  | nil => exact keeps name path rfl _ _ _ settled worked
  | cons key way ih =>
      -- a table on the way to the value may change below only, and any other entry anyhow
      unfold descend at worked
      split at worked
      · next absent =>
          obtain ⟨inner, -, made⟩ := Option.bind_eq_some_iff.mp worked
          cases made
          refine settled.append ?_
          rintro rfl
          exact settled.get?_ne_none absent
      · cases worked
      · next origin span inner found =>
          split at worked
          · cases worked
          obtain ⟨inner', below, made⟩ := Option.bind_eq_some_iff.mp worked
          cases made
          refine settled.replace ?_
          rintro rfl
          cases path with
          | nil => cases settled.of_get? found
          | cons name path =>
              obtain ⟨span, entries, same, settled⟩ := settled.of_get? found
              cases same
              refine ⟨span, inner', rfl, ih ?_ settled below⟩
              intro name' path' end_
              exact keeps name' path' (by simp [end_])
      · next items found =>
          split at worked
          · obtain ⟨inner', -, made⟩ := Option.bind_eq_some_iff.mp worked
            cases made
            refine settled.replace ?_
            rintro rfl
            exact absurd (settled.of_get? found) not_settled_tables
          · cases worked

/-- A value that is settled is found, as is every table on its way. -/
theorem find?_of_settled {way : List Key} {path : List String} {entries : Entries}
    {name' : String} {path' : List String}
    (onWay : way.map (·.text) ++ name' :: path' = name :: path)
    (settled : Sole name (Settled value path) entries) :
    ∃ draft, find? way name' entries = some draft ∧ Settled value path' draft := by
  induction way generalizing name path entries with
  | nil =>
      cases onWay
      exact settled.exists_get?
  | cons key way ih =>
      obtain ⟨named, below⟩ := List.cons.inj onWay
      subst named
      obtain ⟨draft, found, holds⟩ := settled.exists_get?
      cases path with
      | nil => simp at below
      | cons name path =>
          obtain ⟨span, inner, rfl, settled⟩ := holds
          simp only [find?, found]
          exact ih below settled

end Draft

open Draft (Sole Settled)

/-- A place whose table, when it is closed, takes no place on the way to a name. -/
def Place.Clear (path : List String) : Place → Prop
  | .root => False
  | .table way name => ∀ path', way.map (·.text) ++ name.text :: path' ≠ path
  | .item _ _ => True

namespace Progress

variable {value : Value} {table name : String} {p p' : Progress}

/-- The value of a name under the header of a table: it stands in the table that is being
read, which no closed table doubles, or is settled among the closed tables. -/
inductive Holds (value : Value) (table name : String) (p : Progress) : Prop where
  | reading (header : Key) (named : header.text = table) (place : p.place = .table [] header)
      (new : Draft.get? table p.closed = none) (stands : Sole name (· = .closed value) p.entries)
  | closed (settled : Sole table (Settled value [name]) p.closed)
      (clear : p.place.Clear [table, name])

theorem Holds.close {entries : Draft.Entries} (holds : p.Holds value table name)
    (closed : p.close? = some entries) : Sole table (Settled value [name]) entries := by
  cases holds with
  | reading header named place new stands =>
      subst named
      simp only [close?, place, Draft.descend, Option.some.injEq] at closed
      subst closed
      exact Sole.of_absent new ⟨_, _, rfl, stands⟩
  | closed settled clear =>
      unfold close? at closed
      split at closed
      · next place => simp [place, Place.Clear] at clear
      · next way header place =>
          rw [place] at clear
          refine Draft.descend_keeps ?_ settled closed
          intro name' path' onWay _ entries entries' sole worked
          cases worked
          refine sole.append ?_
          rintro rfl
          exact clear path' onWay
      · next way header place =>
          refine Draft.descend_keeps ?_ settled closed
          intro name' path' onWay _ entries entries' sole worked
          split at worked
          · next items found =>
              cases worked
              refine sole.replace ?_
              rintro rfl
              exact absurd (sole.of_get? found) Draft.not_settled_tables
          · cases worked

/-- The header of a table names nothing or an implied table, which is taken out and read on. -/
theorem openTable?_eq_some {way : List Key} {header : Key} {span : Span} {closed : Draft.Entries}
    (opened : p.openTable? way header span closed = some p') :
    ∃ closed' entries, p' = ⟨p.rootSpan, closed', .table way header, span, entries⟩ ∧
      (Draft.find? way header.text closed = none ∧ entries = [] ∨
        ∃ span, Draft.find? way header.text closed = some (.table .implied span entries)) ∧
      Draft.descend .implied way (fun _ inner => some (Draft.erase header.text inner)) .written
        closed = some closed' := by
  unfold openTable? at opened
  dsimp only at opened
  split at opened
  · next absent =>
      obtain ⟨entries, same, opened⟩ := Option.bind_eq_some_iff.mp opened
      obtain ⟨closed', erased, made⟩ := Option.bind_eq_some_iff.mp opened
      cases made
      cases same
      exact ⟨closed', [], rfl, .inl ⟨absent, rfl⟩, erased⟩
  · next span' inner implied =>
      obtain ⟨entries, same, opened⟩ := Option.bind_eq_some_iff.mp opened
      obtain ⟨closed', erased, made⟩ := Option.bind_eq_some_iff.mp opened
      cases made
      cases same
      exact ⟨closed', inner, rfl, .inr ⟨span', implied⟩, erased⟩
  · cases opened

theorem holds_of_openTable? {way : List Key} {header : Key} {span : Span} {closed : Draft.Entries}
    (settled : Sole table (Settled value [name]) closed)
    (opened : p.openTable? way header span closed = some p') : p'.Holds value table name := by
  obtain ⟨closed', entries, rfl, named, erased⟩ := openTable?_eq_some opened
  -- what stands on the way to the name is found, and is no implied table
  have clear : ∀ path', way.map (·.text) ++ header.text :: path' ≠ [table, name] := by
    intro path' onWay
    obtain ⟨draft, found, settled⟩ := Draft.find?_of_settled onWay settled
    rcases named with ⟨absent, -⟩ | ⟨span, implied⟩
    · cases found.symm.trans absent
    · cases found.symm.trans implied
      cases path' with
      | nil => cases settled
      | cons name path' =>
          obtain ⟨span, inner, same, -⟩ := settled
          cases same
  refine .closed (Draft.descend_keeps ?_ settled erased) clear
  intro name' path' onWay _ entries entries' sole worked
  cases worked
  refine sole.erase ?_
  rintro rfl
  exact clear path' onWay

theorem holds_of_openItem? {way : List Key} {header : Key} {span : Span} {closed : Draft.Entries}
    (settled : Sole table (Settled value [name]) closed)
    (opened : p.openItem? way header span closed = some p') : p'.Holds value table name := by
  unfold openItem? at opened
  obtain ⟨closed', added, made⟩ := Option.bind_eq_some_iff.mp opened
  cases made
  refine .closed (Draft.descend_keeps ?_ settled added) trivial
  intro name' path' onWay _ entries entries' sole worked
  split at worked
  · next absent =>
      cases worked
      refine sole.append ?_
      rintro rfl
      exact sole.get?_ne_none absent
  · cases worked
    exact sole
  · cases worked

theorem Holds.insert {way : List Key} {key : Key} {added : Value} (holds : p.Holds value table name)
    (inserted : p.insert? way key added = some p') : p'.Holds value table name := by
  unfold insert? at inserted
  obtain ⟨entries, paired, made⟩ := Option.bind_eq_some_iff.mp inserted
  cases made
  cases holds with
  | closed settled clear => exact .closed settled clear
  | reading header named place new stands =>
      have settled : Sole name (Settled value []) p.entries := stands
      refine .reading header named place new (Draft.descend_keeps ?_ settled paired)
      intro name' path' onWay origin inner inner' sole worked
      split_ifs at worked with there
      cases worked
      refine sole.append ?_
      rintro rfl
      exact there (Option.isSome_iff_ne_none.mpr sole.get?_ne_none)

end Progress

/-! ## Lines -/

namespace Reader

variable {text rest : List Char} {value : Value} {table name : String} {p p' : Progress}

theorem line_holds (holds : p.Holds value table name)
    (read : Reader.line p text = some (p', rest)) : p'.Holds value table name := by
  rcases line_cases read with rfl | ⟨closed, way, header, span, close, opened | opened⟩ |
    ⟨way, key, added, _, _, -, inserted⟩
  · exact holds
  · exact Progress.holds_of_openTable? (holds.close close) opened
  · exact Progress.holds_of_openItem? (holds.close close) opened
  · exact holds.insert inserted

theorem lines_holds {fuel : Nat} (holds : p.Holds value table name)
    (read : lines fuel p text = some (p', rest)) : p'.Holds value table name :=
  lines_keep line_holds holds read

end Reader

end BoardCompiler.Toml
