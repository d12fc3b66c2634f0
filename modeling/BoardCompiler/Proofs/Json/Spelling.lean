/-
# BoardCompiler.Proofs.Json.Spelling — the texts that spell a tree

`Spells j text` is the grammar of JSON texts for the tokens that the printers write: a
text spells a tree if it is the tokens of the tree in their order, with blanks at will
around every value and every name (`Padded`). Where the blanks stand is layout and says
nothing. Both printers stay within the grammar, whatever the depth
(`spells_compactText`, `spells_prettyText`).

The grammar lets an object name a member twice, and what such a text stands for is not
settled among decoders; of a tree without repeats (`NoRepeats`) it is.
-/
import BoardCompiler.Json.Printer
import BoardCompiler.Json.Reader

namespace BoardCompiler.Json

set_option autoImplicit false

/-- Nothing but blanks. -/
def Blank (text : List Char) : Prop := ∀ c ∈ text, isBlank c = true

/-- A spelling with blanks around it. -/
def Padded (spelling : List Char → Prop) (text : List Char) : Prop :=
  ∃ before body after, text = before ++ body ++ after ∧ Blank before ∧ spelling body ∧ Blank after

mutual

/-- The text is the tokens of the tree, with blanks at will between them. -/
def Spells : Json → List Char → Prop
  | .null, text => text = nullText
  | .bool b, text => text = boolText b
  | .integer n, text => text = integerText n
  | .string s, text => text = stringText s
  | .array items, text => ∃ body, text = '[' :: body ++ [']'] ∧ SpellsItems items body
  | .object members, text =>
      ∃ body, text = '\x7b' :: body ++ ['\x7d'] ∧ SpellsMembers members body

/-- The text between the brackets: items with commas between them. -/
def SpellsItems : List Json → List Char → Prop
  | [], text => Blank text
  | [item], text => Padded (Spells item) text
  | item :: next :: rest, text =>
      ∃ first others, text = first ++ ',' :: others ∧ Padded (Spells item) first ∧
        SpellsItems (next :: rest) others

/-- The text between the braces: members with commas between them, each a name and a
value with a colon between them. -/
def SpellsMembers : List (String × Json) → List Char → Prop
  | [], text => Blank text
  | [(name, value)], text =>
      ∃ key body, text = key ++ ':' :: body ∧ Padded (· = stringText name) key ∧
        Padded (Spells value) body
  | (name, value) :: next :: rest, text =>
      ∃ key body others, text = key ++ ':' :: body ++ ',' :: others ∧
        Padded (· = stringText name) key ∧ Padded (Spells value) body ∧
        SpellsMembers (next :: rest) others

end

/-- The string spells the tree, with blanks around it or without. -/
def IsTextOf (text : String) (j : Json) : Prop := Padded (Spells j) text.toList

/-! ## No name twice -/

mutual

/-- No object in the tree names a member twice. -/
def NoRepeats : Json → Prop
  | .array items => NoRepeatsItems items
  | .object members => (members.map (·.1)).Nodup ∧ NoRepeatsMembers members
  | .null | .bool _ | .integer _ | .string _ => True

def NoRepeatsItems : List Json → Prop
  | [] => True
  | item :: rest => item.NoRepeats ∧ NoRepeatsItems rest

def NoRepeatsMembers : List (String × Json) → Prop
  | [] => True
  | (_, value) :: rest => value.NoRepeats ∧ NoRepeatsMembers rest

end

theorem noRepeatsItems_iff (items : List Json) :
    NoRepeatsItems items ↔ ∀ item ∈ items, item.NoRepeats := by
  induction items with
  | nil => simp [NoRepeatsItems]
  | cons item rest ih => simp [NoRepeatsItems, ih]

theorem noRepeatsMembers_iff (members : List (String × Json)) :
    NoRepeatsMembers members ↔ ∀ member ∈ members, member.2.NoRepeats := by
  induction members with
  | nil => simp [NoRepeatsMembers]
  | cons member rest ih => simp [NoRepeatsMembers, ih]

/-! ## Blanks -/

theorem blank_nil : Blank [] := by simp [Blank]

theorem blank_newline (depth : Nat) : Blank (newline depth) := by
  intro c member
  rcases List.mem_cons.mp member with rfl | space
  · rfl
  · rw [List.eq_of_mem_replicate space]
    rfl

theorem Padded.of_spelling {spelling : List Char → Prop} {text : List Char}
    (spelled : spelling text) : Padded spelling text :=
  ⟨[], text, [], by simp, blank_nil, spelled, blank_nil⟩

/-! ## The printers -/

mutual

theorem spells_compactText : ∀ j : Json, Spells j (compactText j)
  | .null => rfl
  | .bool _ => rfl
  | .integer _ => rfl
  | .string _ => rfl
  | .array items => ⟨_, rfl, spellsItems_compactItems items⟩
  | .object members => ⟨_, rfl, spellsMembers_compactMembers members⟩

theorem spellsItems_compactItems : ∀ items : List Json, SpellsItems items (compactItems items)
  | [] => blank_nil
  | [item] => .of_spelling (spells_compactText item)
  | item :: next :: rest =>
      ⟨_, _, rfl, .of_spelling (spells_compactText item), spellsItems_compactItems (next :: rest)⟩

theorem spellsMembers_compactMembers :
    ∀ members : List (String × Json), SpellsMembers members (compactMembers members)
  | [] => blank_nil
  | [(_, value)] =>
      ⟨_, _, rfl, .of_spelling rfl, .of_spelling (spells_compactText value)⟩
  | (_, value) :: next :: rest =>
      ⟨_, _, _, by simp [compactMembers], .of_spelling rfl,
        .of_spelling (spells_compactText value), spellsMembers_compactMembers (next :: rest)⟩

end

theorem padded_newline {spelling : List Char → Prop} {body after : List Char} (depth : Nat)
    (spelled : spelling body) (blank : Blank after) :
    Padded spelling (newline depth ++ body ++ after) :=
  ⟨newline depth, body, after, rfl, blank_newline depth, spelled, blank⟩

theorem padded_space {spelling : List Char → Prop} {body after : List Char}
    (spelled : spelling body) (blank : Blank after) : Padded spelling (' ' :: body ++ after) :=
  ⟨[' '], body, after, by simp, by simp [Blank, isBlank], spelled, blank⟩

mutual

theorem spells_prettyText : ∀ (j : Json) (depth : Nat), Spells j (prettyText depth j)
  | .null, _ => rfl
  | .bool _, _ => rfl
  | .integer _, _ => rfl
  | .string _, _ => rfl
  | .array [], _ => ⟨[], rfl, blank_nil⟩
  | .array (item :: items), depth => by
      have body := spellsItems_prettyItems (item :: items) (depth + 1) (by simp)
        (blank_newline depth)
      exact ⟨_, by simp [prettyText], body⟩
  | .object [], _ => ⟨[], rfl, blank_nil⟩
  | .object (member :: members), depth => by
      have body := spellsMembers_prettyMembers (member :: members) (depth + 1) (by simp)
        (blank_newline depth)
      exact ⟨_, by simp [prettyText], body⟩

/-- The blanks in front of the closing bracket belong to the last item. -/
theorem spellsItems_prettyItems : ∀ (items : List Json) (depth : Nat) {close : List Char},
    items ≠ [] → Blank close → SpellsItems items (prettyItems depth items ++ close)
  | [], _, _, nonempty, _ => absurd rfl nonempty
  | [item], depth, close, _, blank => by
      have last := padded_newline depth (spells_prettyText item depth) blank
      simpa [prettyItems, SpellsItems] using last
  | item :: next :: rest, depth, close, _, blank => by
      have first := padded_newline depth (spells_prettyText item depth) blank_nil
      have others := spellsItems_prettyItems (next :: rest) depth (by simp) blank
      exact ⟨_, _, by simp [prettyItems], first, others⟩

theorem spellsMembers_prettyMembers : ∀ (members : List (String × Json)) (depth : Nat)
    {close : List Char},
    members ≠ [] → Blank close → SpellsMembers members (prettyMembers depth members ++ close)
  | [], _, _, nonempty, _ => absurd rfl nonempty
  | [(name, value)], depth, close, _, blank => by
      have key : Padded (· = stringText name) _ := padded_newline depth rfl blank_nil
      have body := padded_space (spells_prettyText value depth) blank
      exact ⟨_, _, by simp [prettyMembers], key, body⟩
  | (name, value) :: next :: rest, depth, close, _, blank => by
      have key : Padded (· = stringText name) _ := padded_newline depth rfl blank_nil
      have body := padded_space (spells_prettyText value depth) blank_nil
      have others := spellsMembers_prettyMembers (next :: rest) depth (by simp) blank
      exact ⟨_, _, _, by simp [prettyMembers], key, body, others⟩

end

theorem isTextOf_compact (j : Json) : IsTextOf j.compact j := by
  rw [IsTextOf, compact, String.toList_ofList]
  exact .of_spelling (spells_compactText j)

theorem isTextOf_pretty (j : Json) : IsTextOf j.pretty j := by
  rw [IsTextOf, pretty, String.toList_ofList]
  exact .of_spelling (spells_prettyText j 0)

/-- A line break at the end is a blank like others. -/
theorem isTextOf_pretty_newline (j : Json) : IsTextOf (j.pretty ++ "\n") j := by
  rw [IsTextOf, String.toList_append, pretty, String.toList_ofList]
  exact ⟨[], _, ['\n'], by simp, blank_nil, spells_prettyText j 0, by simp [Blank, isBlank]⟩

end BoardCompiler.Json
