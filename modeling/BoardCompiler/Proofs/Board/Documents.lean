/-
# BoardCompiler.Proofs.Board.Documents — a document is read as its value is

The entries of a document and those of its value are gone through in step. The names seen
so far are those of the entries done so far, so a name is refused as repeated exactly if
the value has it twice (`gives_readEntries_iff`). The sections of a plain document are
therefore those of its value, and both readings follow the same aliases
(`gives_read_iff`).
-/
import BoardCompiler.Proofs.Board.Sections
import BoardCompiler.Proofs.Compile.Outcome
import BoardCompiler.Proofs.Traversal

namespace BoardCompiler

set_option autoImplicit false

open Yaml (Value Node Document Load NodeTag)
open Yaml.Load (Gives)

/-- Values that are equal as keys have the same text, if any. -/
theorem Yaml.Value.asString?_of_same :
    ∀ {a b : Value}, Value.same a b = true → a.asString? = b.asString?
  | .tagged s v, .tagged t w, same => by
      rw [Value.same, Bool.and_eq_true] at same
      exact asString?_of_same (a := v) (b := w) same.2
  | .string s, .string t, same => by
      rw [Value.same, beq_iff_eq] at same
      rw [same]
  | .null, .null, _ | .bool _, .bool _, _ | .integer _, .integer _, _ | .float _, .float _, _
  | .sequence _, .sequence _, _ | .mapping _, .mapping _, _ => rfl

namespace BoardSections

variable {d : Document} {path : Yaml.Path} {n m depth : Nat} {name : String}

theorem field?_eq_some_iff {entry : Value × Value} {field : String × Option (List Value)} :
    field? entry = some field ↔
      field.1 ∈ names ∧ entry.1.asString? = some field.1 ∧ entry.2.section? = some field.2 := by
  obtain ⟨name, items⟩ := field
  unfold field?
  cases entry.1.asString? with
  | none => simp
  | some text =>
      by_cases member : text ∈ names
      · simp only [if_pos member, Option.map_eq_some_iff, Prod.mk.injEq, Option.some.injEq]
        constructor
        · rintro ⟨_, found, rfl, rfl⟩
          exact ⟨member, rfl, found⟩
        · rintro ⟨-, rfl, found⟩
          exact ⟨_, found, rfl, rfl⟩
      · simp only [if_neg member, Option.some.injEq, reduceCtorEq, false_iff, not_and]
        rintro known rfl
        exact absurd known member

theorem gives_readEntries_cons_iff {key value : Node} {rest : List (Node × Node)}
    {seen found : List (String × Option (List Value))} :
    Gives (readEntries d depth path ((key, value) :: rest) seen) n found m ↔
      ∃ name k items k', Gives (fieldName d path key) n name k ∧
        (seen.any (·.1 == name)) = false ∧
        Gives (section? d depth (Load.entryPath path key) value) k items k' ∧
        Gives (readEntries d depth path rest (seen ++ [(name, items)])) k' found m := by
  simp only [readEntries, Load.gives_bind_iff, Load.gives_unless_iff, exists_and_left]

/-- A section is read off its value as it is off its spelling. -/
theorem gives_section?_iff_value {node : Node} {found : Option (List Value)}
    (read : (d.resolve node).isMisread = false) (direct : (d.resolve node).isAlias = false) :
    Gives (section? d (depth + 1) path node) n found m ↔
      ∃ v, Gives (Load.value d (depth + 1) path node) n v m ∧ v.section? = some found :=
  (gives_section?_iff read).trans (gives_section_value_iff read direct).symm

variable {seen found : List (String × Option (List Value))} {done : List (Value × Value)}

/-- A key that no field has is new among the entries. -/
theorem any_same_of_fresh {key : Value} (fields : done.mapM field? = some seen)
    (text : key.asString? = some name) (fresh : (seen.any (·.1 == name)) = false) :
    (done.any fun entry => entry.1.same key) = false := by
  rw [List.any_eq_false] at fresh ⊢
  intro entry member same
  obtain ⟨field, among, read⟩ := exists_of_forall₂ (mapM_eq_some_iff.mp fields).flip entry member
  have named := (field?_eq_some_iff.mp read).2.1
  rw [Value.asString?_of_same same, text, Option.some.injEq] at named
  exact fresh field among (beq_iff_eq.mpr named.symm)

/-- A name that is new among those that differ makes no two of them equal. -/
theorem nodup_concat_iff (items : Option (List Value)) (once : (seen.map (·.1)).Nodup) :
    ((seen ++ [(name, items)]).map (·.1)).Nodup ↔ (seen.any (·.1 == name)) = false := by
  have fresh : (seen.any (·.1 == name)) = false ↔ name ∉ seen.map (·.1) := by
    rw [List.any_eq_false, List.mem_map, not_exists]
    simp only [beq_iff_eq, not_and]
  rw [List.map_append, List.nodup_append_comm, fresh]
  simp [once]

theorem mapM_field?_append {more : List (Value × Value)} (fields : done.mapM field? = some seen) :
    (done ++ more).mapM field? = some found ↔
      ∃ later, more.mapM field? = some later ∧ found = seen ++ later := by
  rw [List.mapM_append, fields]
  change ((more.mapM field?).bind fun later => some (seen ++ later)) = some found ↔ _
  rw [Option.bind_eq_some_iff]
  exact exists_congr fun later => and_congr_right fun _ => Option.some_inj.trans eq_comm

/-- The fields of a mapping in which each name stands once are read entry by entry, and each
entry for itself. -/
theorem gives_readEntries_iff {entries : List (Node × Node)}
    (keys : ∀ entry ∈ entries, (d.resolve entry.1).isMisnamed = false)
    (values : ∀ entry ∈ entries, (d.resolve entry.2).isMisread = false)
    (direct : ∀ node, (d.resolve node).isAlias = false)
    (fields : done.mapM field? = some seen) (once : (seen.map (·.1)).Nodup) :
    Gives (readEntries d (depth + 1) path entries seen) n found m ↔
      ∃ loaded, Gives (Load.entriesWith (Load.value d (depth + 1)) path entries done) n loaded m ∧
        loaded.mapM field? = some found ∧ (found.map (·.1)).Nodup := by
  -- On the entries left; what has been seen so far is what the entries done so far are.
  induction entries generalizing seen done n with
  | nil =>
      simp only [readEntries, Load.entriesWith, Load.gives_pure_iff]
      constructor
      · rintro ⟨rfl, rfl⟩
        exact ⟨_, ⟨rfl, rfl⟩, fields, once⟩
      · rintro ⟨_, ⟨rfl, rfl⟩, fields', -⟩
        rw [fields] at fields'
        cases fields'
        exact ⟨rfl, rfl⟩
  | cons entry rest ih =>
      obtain ⟨key, value⟩ := entry
      have keyRead := keys _ (List.mem_cons_self ..)
      have valueRead := values _ (List.mem_cons_self ..)
      have step : ∀ {a b name items k}, field? (a, b) = some (name, items) →
          (seen.any (·.1 == name)) = false →
            (Gives (readEntries d (depth + 1) path rest (seen ++ [(name, items)])) k found m ↔ _) :=
        fun {a b name items k} read fresh => ih
          (fun entry member => keys entry (List.mem_cons_of_mem _ member))
          (fun entry member => values entry (List.mem_cons_of_mem _ member))
          ((mapM_field?_append fields).mpr ⟨_, mapM_eq_some_iff.mpr (.cons read .nil), rfl⟩)
          ((nodup_concat_iff items once).mpr fresh)
      simp only [gives_readEntries_cons_iff, Load.gives_entriesWith_cons_iff,
        gives_fieldName_iff depth keyRead, gives_section?_iff_value valueRead (direct _)]
      constructor
      · rintro ⟨name, k, items, k', ⟨known, a, givenKey, text⟩, fresh, ⟨b, givenValue, sought⟩,
          given⟩
        have read : field? (a, b) = some (name, items) :=
          field?_eq_some_iff.mpr ⟨known, text, sought⟩
        obtain ⟨loaded, given, rest⟩ := (step read fresh).mp given
        have new := any_same_of_fresh fields text fresh
        exact ⟨loaded, ⟨a, k, b, k', givenKey, new, givenValue, given⟩, rest⟩
      · rintro ⟨loaded, ⟨a, k, b, k', givenKey, new, givenValue, given⟩, fields', once'⟩
        -- The fields of all the entries are those seen, that of this entry, and the later ones.
        obtain ⟨more, split⟩ := Load.append_of_entriesWith given
        have parts := fields'
        rw [split, List.append_assoc, mapM_field?_append fields] at parts
        obtain ⟨later, parts, rfl⟩ := parts
        obtain ⟨⟨name, items⟩, others, read, -, rfl⟩ :=
          List.forall₂_cons_left_iff.mp (mapM_eq_some_iff.mp parts)
        obtain ⟨known, text, sought⟩ := field?_eq_some_iff.mp read
        have fresh : (seen.any (·.1 == name)) = false := by
          rw [← nodup_concat_iff items once]
          refine List.Nodup.sublist (List.Sublist.map _ ?_) once'
          exact List.Sublist.append_left (List.singleton_sublist.mpr (List.mem_cons_self ..)) seen
        exact ⟨name, k, items, k', ⟨known, a, givenKey, text⟩, fresh, ⟨b, givenValue, sought⟩,
          (step read fresh).mpr ⟨loaded, given, fields', once'⟩⟩

/-! ## One document -/

theorem ofValue?_withTag_mapping (tag : NodeTag) (entries : List (Value × Value)) :
    ofValue? (Load.withTag tag (.mapping entries)) =
      (entries.mapM field?).bind fun fields =>
        if (fields.map (·.1)).Nodup then some (ofFields fields) else none := by
  cases tag <;> rfl

theorem ofValue?_withTag_sequence (tag : NodeTag) (items : List Value) :
    ofValue? (Load.withTag tag (.sequence items)) = none := by
  cases tag <;> rfl

theorem ofValue?_scalar_iff {tag : NodeTag} {kind : Found} {v : Value} {sections : BoardSections}
    (worth : Load.valueOf? kind = some v) :
    ofValue? (Load.withTag tag v) = some sections ↔
      kind = .null ∧ (∀ own, tag ≠ .own own) ∧ sections = ⟨none, none⟩ := by
  cases kind <;> cases worth <;> cases tag <;>
    simp [Load.withTag, ofValue?, Value.untagged, eq_comm]

theorem gives_rootEntries_iff {entries : List (Node × Node)}
    (plain : (entries.all fun entry =>
      !(d.resolve entry.1).isMisnamed && !(d.resolve entry.2).isMisread) = true)
    (direct : ∀ node, (d.resolve node).isAlias = false) :
    Gives (readEntries d (Load.depthLimit - 1) path entries []) n found m ↔
      ∃ loaded, Gives (Load.entriesWith (Load.value d 127) path entries []) n loaded m ∧
        loaded.mapM field? = some found ∧ (found.map (·.1)).Nodup := by
  simp only [List.all_eq_true, Bool.and_eq_true, Bool.not_eq_true'] at plain
  exact gives_readEntries_iff (fun entry member => (plain entry member).1)
    (fun entry member => (plain entry member).2) direct rfl List.nodup_nil

/-- The sections of a plain document are those of its value. -/
theorem gives_read_iff {sections : BoardSections} (plain : d.isPlain = true)
    (root : d.root.isAlias = false) (direct : ∀ node, (d.resolve node).isAlias = false) :
    Gives (read d) n sections m ↔
      ∃ v, Gives (Load.value d Load.depthLimit .root d.root) n v m ∧
        ofValue? v = some sections := by
  have loads : ∀ v, Gives (Load.value d Load.depthLimit .root d.root) n v m ↔
      Load.Loaded d 127 .root d.root n v m := fun v => Load.gives_value_iff_loaded root
  obtain ⟨whole, anchored, limit⟩ := d
  simp only [loads, Document.isPlain, Bool.and_eq_true, Bool.not_eq_true'] at plain root ⊢
  obtain ⟨rootRead, plain⟩ := plain
  unfold read
  cases whole with
  | scalar mark p plain text =>
      refine (gives_scalar_iff rootRead).trans ⟨?_, ?_⟩
      · rintro ⟨null, rfl, rfl⟩
        obtain ⟨classified, bare⟩ := (isNull_scalar_iff rootRead).mp null
        have worth : Load.valueOf? .null = some .null := rfl
        exact ⟨_, .scalar classified worth, (ofValue?_scalar_iff worth).mpr ⟨rfl, bare, rfl⟩⟩
      · rintro ⟨v, loaded, sought⟩
        cases loaded with
        | scalar classified worth =>
            obtain ⟨rfl, bare, rfl⟩ := (ofValue?_scalar_iff worth).mp sought
            exact ⟨(isNull_scalar_iff rootRead).mpr ⟨classified, bare⟩, rfl, rfl⟩
  | sequence mark p items =>
      change Gives (Load.located .root mark
        (Load.wrongNode "struct BoardFile" (.sequence mark p items))) n sections m ↔ _
      refine Load.gives_located_iff.trans (iff_of_false Load.not_gives_wrongNode ?_)
      rintro ⟨v, ⟨given⟩, sought⟩
      rw [ofValue?_withTag_sequence] at sought
      cases sought
  | mapping mark p entries =>
      refine Load.gives_located_iff.trans (Load.gives_bind_iff.trans ⟨?_, ?_⟩)
      · rintro ⟨fields, k, given, rest⟩
        obtain ⟨rfl, rfl⟩ := Load.gives_pure_iff.mp rest
        obtain ⟨loaded, given, read, once⟩ := (gives_rootEntries_iff plain direct).mp given
        refine ⟨_, .mapping given, ?_⟩
        rw [ofValue?_withTag_mapping, read]
        exact if_pos once
      · rintro ⟨v, loaded, sought⟩
        cases loaded with
        | mapping given =>
            rw [ofValue?_withTag_mapping] at sought
            obtain ⟨fields, read, sought⟩ := Option.bind_eq_some_iff.mp sought
            obtain ⟨once, sought⟩ := Option.ite_none_right_eq_some.mp sought
            cases sought
            have given := (gives_rootEntries_iff plain direct).mpr ⟨_, given, read, once⟩
            exact ⟨fields, m, given, Load.gives_pure_iff.mpr ⟨rfl, rfl⟩⟩
  | aliasOf mark number => cases root

end BoardSections

end BoardCompiler
