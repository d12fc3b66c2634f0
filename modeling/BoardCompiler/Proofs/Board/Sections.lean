/-
# BoardCompiler.Proofs.Board.Sections — one key and one section of a board

A board's document is read off its nodes, without a value of the whole. `ofValue?` says
what the sections of a value are. A reader of nodes looks at spellings and passes tags
over where a value depends on them, so the two part ways at a few scalars (`isMisread`,
`isMisnamed`). Elsewhere a key gives a name if its value is that string
(`gives_fieldName_iff`), and a section gives what its value is as a section: both come
down to one relation on the node (`gives_section?_iff`, `gives_section_value_iff`).
-/
import BoardCompiler.Board
import BoardCompiler.Proofs.Yaml.Load

namespace BoardCompiler

set_option autoImplicit false

open Yaml (Value Node Document Load NodeTag)
open Yaml.Load (Gives)

/-! ## The sections of a value -/

/-- What a value is as a section: a null is none, a sequence its items under whatever tag. -/
def Yaml.Value.section? : Value → Option (Option (List Value))
  | .null => some none
  | v =>
    match v.untagged with
    | .sequence items => some (some items)
    | _ => none

namespace BoardSections

/-- The section that an entry of a board's mapping is, by its name. -/
def field? (entry : Value × Value) : Option (String × Option (List Value)) :=
  match entry.1.asString? with
  | some name => if name ∈ names then entry.2.section?.map (name, ·) else none
  | none => none

/-- The two sections among the fields; one that is absent is as one that is null. -/
def ofFields (fields : List (String × Option (List Value))) : BoardSections :=
  let items := fun (name : String) => ((fields.find? (·.1 == name)).map (·.2)).join
  ⟨items "peripherals", items "devices"⟩

/-- The sections of a value: a null has none, and a mapping, under whatever tag, has
nothing but sections, each once at most. -/
def ofValue? : Value → Option BoardSections
  | .null => some ⟨none, none⟩
  | v =>
    match v.untagged with
    | .mapping entries =>
      (entries.mapM field?).bind fun fields =>
        if (fields.map (·.1)).Nodup then some (ofFields fields) else none
    | _ => none

end BoardSections

/-! ## Documents whose nodes pass for their values -/

/-- A scalar that a section, or a document, is taken for by its spelling and not by its
value: it is not written but bears a tag, or it is a word for null and null by its value
alone. -/
def Yaml.Node.isMisread : Node → Bool
  | .scalar _ p plain text =>
    plain && text.isEmpty && p.tag != .none && p.tag != .null ||
      Yaml.Scalar.isNullWord (String.ofList text) && p.tag == (if plain then .unreadable else .null)
  | _ => false

/-- The name of a section under a tag that asks for no string. -/
def Yaml.Node.isMisnamed : Node → Bool
  | .scalar _ p _ text =>
    [NodeTag.bool, .integer, .float, .null].contains p.tag &&
      BoardSections.names.contains (String.ofList text)
  | _ => false

/-- Whether a document, its keys and its sections pass for their values. -/
def Yaml.Document.isPlain (d : Document) : Bool :=
  !d.root.isMisread &&
    match d.root with
    | .mapping _ _ entries =>
      entries.all fun entry => !(d.resolve entry.1).isMisnamed && !(d.resolve entry.2).isMisread
    | _ => true

/-- A scalar that is null by its spelling and its tag. -/
def Yaml.Node.isNull : Node → Bool
  | .scalar _ p plain text =>
    plain && (p.tag == .none && (text.isEmpty || Yaml.Scalar.isNullWord (String.ofList text)) ||
      p.tag == .null && Yaml.Scalar.isNullWord (String.ofList text))
  | _ => false

namespace BoardSections

variable {d : Document} {path : Yaml.Path} {node : Node} {n m : Nat}

theorem gives_isPresent_false_iff :
    Gives (isPresent node) n false m ↔ node.isNull = true ∧ m = n := by
  cases node with
  | scalar mark p plain text =>
      cases plain with
      | false => simp [isPresent, Load.gives_pure_iff, Node.isNull]
      | true =>
          cases tag : p.tag with
          | none =>
              cases void : text.isEmpty || Yaml.Scalar.isNullWord (String.ofList text) <;>
                simp only [isPresent, Node.isNull, tag, void] <;> simp [Load.gives_pure_iff]
          | null =>
              cases word : Yaml.Scalar.isNullWord (String.ofList text) <;>
                simp [isPresent, Load.gives_pure_iff, Load.not_gives_refuse, Node.isNull, tag, word]
          | _ => simp [isPresent, Load.gives_pure_iff, Node.isNull, tag]
  | _ => simp [isPresent, Load.gives_pure_iff, Node.isNull]

/-- A scalar that is there is written, unless it is misread. -/
theorem written_of_present {mark : Yaml.Mark} {p : Yaml.Properties} {plain : Bool}
    {text : List Char} (read : (Node.scalar mark p plain text).isMisread = false)
    (present : Gives (isPresent (.scalar mark p plain text)) n true m) :
    (plain && text.isEmpty) = false := by
  cases plain with
  | false => rfl
  | true =>
      cases tag : p.tag with
      | none =>
          simp only [isPresent, tag] at present
          have full := (Load.gives_pure_iff.mp present).1
          cases empty : text.isEmpty with
          | false => rfl
          | true => simp [empty] at full
      | null =>
          cases word : Yaml.Scalar.isNullWord (String.ofList text) <;>
            simp [isPresent, Load.gives_pure_iff, Load.not_gives_refuse, tag, word] at present
      | _ =>
          simp only [Node.isMisread, tag, Bool.or_eq_false_iff] at read
          simpa using read.1

/-- Apart from what is misread, a scalar is null by its spelling if it is by its value, and
has no tag of its own. -/
theorem isNull_scalar_iff {mark : Yaml.Mark} {p : Yaml.Properties} {plain : Bool}
    {text : List Char} (read : (Node.scalar mark p plain text).isMisread = false) :
    (Node.scalar mark p plain text).isNull = true ↔
      Yaml.Scalar.classify p.tag plain text = .ok .null ∧ ∀ own, p.tag ≠ .own own := by
  have exclusive : Yaml.Scalar.isNullWord (String.ofList text) = true → text.isEmpty = false := by
    rintro word
    cases text with
    | nil => cases word
    | cons => rfl
  rw [Yaml.Scalar.classify_eq_null_iff]
  simp only [Node.isMisread, Node.isNull] at read ⊢
  generalize Yaml.Scalar.isNullWord (String.ofList text) = word, text.isEmpty = empty,
    p.tag = tag at *
  cases tag <;> cases plain <;> cases word <;> cases empty <;> simp_all [NodeTag.isOpen]

/-- In place of a collection a scalar is passed over if it is null by its spelling.
Otherwise it is refused, unless it is misread. -/
theorem gives_scalar_iff {α : Type} {absent other a : α} {expected : String} {mark : Yaml.Mark}
    {p : Yaml.Properties} {plain : Bool} {text : List Char}
    (read : (Node.scalar mark p plain text).isMisread = false) :
    Gives (do
      if !(← isPresent (.scalar mark p plain text)) then return absent
      Load.located path mark do
        if plain && text.isEmpty then return other
        else Load.wrongNode expected (.scalar mark p plain text)) n a m ↔
      (Node.scalar mark p plain text).isNull = true ∧ a = absent ∧ m = n := by
  rw [Load.gives_bind_iff]
  constructor
  · rintro ⟨present, k, there, rest⟩
    cases present with
    | false =>
        obtain ⟨null, rfl⟩ := gives_isPresent_false_iff.mp there
        exact ⟨null, Load.gives_pure_iff.mp rest⟩
    | true =>
        simp only [Bool.not_true, Bool.false_eq_true, if_false, Load.gives_located_iff,
          written_of_present read there] at rest
        exact absurd rest Load.not_gives_wrongNode
  · rintro ⟨null, rfl, rfl⟩
    exact ⟨false, m, gives_isPresent_false_iff.mpr ⟨null, rfl⟩, Load.gives_pure_iff.mpr ⟨rfl, rfl⟩⟩

/-! ## One section -/

/-- What stands in place of a section: a null, or a sequence with its items loaded. -/
inductive SectionRead (d : Document) (depth : Nat) (path : Yaml.Path) :
    Node → Nat → Option (List Value) → Nat → Prop
  | null {node : Node} {n : Nat} (null : node.isNull = true) :
      SectionRead d depth path node n none n
  | items {mark : Yaml.Mark} {p : Yaml.Properties} {nodes : List Node} {n m : Nat}
      {items : List Value}
      (given : Gives (Load.itemsWith (Load.value d depth) path nodes 0) n items m) :
      SectionRead d depth path (.sequence mark p nodes) n (some items) m

variable {depth : Nat} {found : Option (List Value)}

theorem section?_withTag_sequence (tag : NodeTag) (items : List Value) :
    (Load.withTag tag (.sequence items)).section? = some (some items) := by
  cases tag <;> rfl

theorem section?_withTag_mapping (tag : NodeTag) (entries : List (Value × Value)) :
    (Load.withTag tag (.mapping entries)).section? = none := by
  cases tag <;> rfl

theorem section?_scalar_iff {tag : NodeTag} {kind : Found} {v : Value}
    (worth : Load.valueOf? kind = some v) :
    (Load.withTag tag v).section? = some found ↔
      kind = .null ∧ (∀ own, tag ≠ .own own) ∧ found = none := by
  cases kind <;> cases worth <;> cases tag <;>
    simp [Load.withTag, Value.section?, Value.untagged, eq_comm]

/-- A section is read off its spelling. -/
theorem gives_section?_iff (read : (d.resolve node).isMisread = false) :
    Gives (section? d (depth + 1) path node) n found m ↔
      ∃ r k, Gives (Load.follow d path node) n r k ∧ SectionRead d depth r.1 r.2 k found m := by
  unfold section?
  rw [Load.gives_bind_iff]
  refine exists_congr fun r => exists_congr fun k => and_congr_right fun followed => ?_
  rw [← Load.resolve_of_follow followed] at read
  obtain ⟨target, node⟩ := r
  cases node with
  | scalar mark p plain text =>
      refine (gives_scalar_iff read).trans ⟨?_, ?_⟩
      · rintro ⟨null, rfl, rfl⟩
        exact .null null
      · rintro ⟨null⟩
        exact ⟨null, rfl, rfl⟩
  | sequence mark p nodes =>
      refine Load.gives_located_iff.trans (Load.gives_bind_iff.trans ⟨?_, ?_⟩)
      · rintro ⟨items, k', given, rest⟩
        obtain ⟨rfl, rfl⟩ := Load.gives_pure_iff.mp rest
        exact .items given
      · rintro (null | given)
        · cases null
        · exact ⟨_, m, given, Load.gives_pure_iff.mpr ⟨rfl, rfl⟩⟩
  | mapping mark p entries =>
      change Gives (Load.located target mark
        (Load.wrongNode "a sequence" (.mapping mark p entries))) k found m ↔ _
      refine Load.gives_located_iff.trans (iff_of_false Load.not_gives_wrongNode ?_)
      rintro ⟨null⟩
      cases null
  | aliasOf mark number =>
      change Gives (Load.located target mark
        (Load.wrongNode "a sequence" (.aliasOf mark number))) k found m ↔ _
      refine Load.gives_located_iff.trans (iff_of_false Load.not_gives_wrongNode ?_)
      rintro ⟨null⟩
      cases null

/-- A section is read off its value. -/
theorem gives_section_value_iff (read : (d.resolve node).isMisread = false)
    (direct : (d.resolve node).isAlias = false) :
    (∃ v, Gives (Load.value d (depth + 1) path node) n v m ∧ v.section? = some found) ↔
      ∃ r k, Gives (Load.follow d path node) n r k ∧ SectionRead d depth r.1 r.2 k found m := by
  simp only [Load.gives_value_iff]
  constructor
  · rintro ⟨v, ⟨⟨target, node⟩, k, followed, loaded⟩, sought⟩
    refine ⟨_, k, followed, ?_⟩
    rw [← Load.resolve_of_follow followed] at read direct
    cases loaded with
    | scalar classified worth =>
        obtain ⟨rfl, bare, rfl⟩ := (section?_scalar_iff worth).mp sought
        exact .null ((isNull_scalar_iff read).mpr ⟨classified, bare⟩)
    | sequence given =>
        rw [section?_withTag_sequence] at sought
        cases sought
        exact .items given
    | mapping given =>
        rw [section?_withTag_mapping] at sought
        cases sought
    | lost => cases direct
  · rintro ⟨⟨target, node⟩, k, followed, stands⟩
    cases stands with
    | null null =>
        rw [← Load.resolve_of_follow followed] at read
        cases node with
        | scalar mark p plain text =>
            obtain ⟨classified, bare⟩ := (isNull_scalar_iff read).mp null
            have worth : Load.valueOf? .null = some .null := rfl
            exact ⟨_, ⟨_, _, followed, .scalar classified worth⟩,
              (section?_scalar_iff worth).mpr ⟨rfl, bare, rfl⟩⟩
        | _ => cases null
    | items given =>
        exact ⟨_, ⟨_, k, followed, .sequence given⟩, section?_withTag_sequence _ _⟩

/-! ## One key -/

theorem resolve_of_mem_names {text : List Char} (member : String.ofList text ∈ names) :
    Yaml.Scalar.resolve text = .string (String.ofList text) := by
  have spelled : ∀ name, String.ofList text = name → text = name.toList := by
    rintro _ rfl
    exact String.toList_ofList.symm
  simp only [names, List.mem_cons, List.not_mem_nil, or_false] at member
  rcases member with name | name
  · rw [name, spelled _ name]
    rfl
  · rw [name, spelled _ name]
    rfl

/-- The name of a section is a string, unless its tag asks for something else. -/
theorem classify_of_mem_names {mark : Yaml.Mark} {p : Yaml.Properties} {plain : Bool}
    {text : List Char} (read : (Node.scalar mark p plain text).isMisnamed = false)
    (member : String.ofList text ∈ names) :
    Yaml.Scalar.classify p.tag plain text = .ok (.string (String.ofList text)) := by
  have resolved := resolve_of_mem_names member
  simp only [Node.isMisnamed, List.contains_iff_mem.mpr member, Bool.and_true] at read
  cases tag : p.tag with
  | none | own _ | unreadable => cases plain <;> simp [Yaml.Scalar.classify, resolved]
  | other => rfl
  | bool | integer | float | null => simp [tag] at read

theorem asString?_withTag (tag : NodeTag) (v : Value) :
    (Load.withTag tag v).asString? = v.asString? := by
  cases tag <;> rfl

theorem asString?_scalar_iff {found : Found} {v : Value} {s : String}
    (worth : Load.valueOf? found = some v) : v.asString? = some s ↔ found = .string s := by
  cases found <;> cases worth <;> simp [Value.asString?, Value.untagged]

/-- A key names a section by its spelling if it does by its value. -/
theorem gives_fieldName_iff {name : String} (depth : Nat)
    (read : (d.resolve node).isMisnamed = false) :
    Gives (fieldName d path node) n name m ↔
      name ∈ names ∧
        ∃ key, Gives (Load.value d (depth + 1) path node) n key m ∧ key.asString? = some name := by
  unfold fieldName
  simp only [Load.gives_bind_iff, Load.gives_value_iff]
  constructor
  · rintro ⟨⟨target, node⟩, k, followed, rest⟩
    rw [← Load.resolve_of_follow followed] at read
    cases node with
    | scalar mark p plain text =>
        dsimp only at rest
        split at rest
        next known =>
          obtain ⟨rfl, rfl⟩ := Load.gives_pure_iff.mp rest
          have member := List.contains_iff_mem.mp known
          have classified := classify_of_mem_names read member
          refine ⟨member, _, ⟨_, _, followed, .scalar classified rfl⟩, ?_⟩
          rw [asString?_withTag]
          rfl
        next => exact absurd (Load.gives_located_iff.mp rest) Load.not_gives_refuse
    | _ => exact absurd (Load.gives_located_iff.mp rest) Load.not_gives_wrongNode
  · rintro ⟨member, key, ⟨⟨target, node⟩, k, followed, loaded⟩, text⟩
    refine ⟨_, k, followed, ?_⟩
    cases loaded with
    | scalar classified worth =>
        rw [asString?_withTag, asString?_scalar_iff worth] at text
        subst text
        obtain rfl := Yaml.Scalar.string_of_classify classified
        dsimp only
        rw [if_pos (List.contains_iff_mem.mpr member)]
        exact Load.gives_pure_iff.mpr ⟨rfl, rfl⟩
    | sequence | mapping =>
        rw [asString?_withTag] at text
        cases text
    | lost => cases text

end BoardSections

end BoardCompiler
