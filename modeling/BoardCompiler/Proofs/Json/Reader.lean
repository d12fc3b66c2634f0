/-
# BoardCompiler.Proofs.Json.Reader — the reader takes every spelling of a tree

`Decodes` says what a decoder of JSON texts is held to: whatever spells a tree without
repeated names decodes to that tree, members in their order. The reader does, and takes
the texts of all other trees too (`parse?_of_isTextOf`): by recursion on the tree, it
takes the spelling off the front of any text that goes on with no digit
(`readValue?_spells`), with fuel for no more than the characters it reads.
-/
import BoardCompiler.Proofs.Json.Tokens

namespace BoardCompiler.Json

set_option autoImplicit false

/-- The decoder takes every text of a tree for that tree, where no object names a member
twice; what it makes of other texts is its own. -/
def Decodes (decode : String → Option Json) : Prop :=
  ∀ j : Json, j.NoRepeats → ∀ text, IsTextOf text j → decode text = some j

/-! ## The first character -/

/-- The text starts with a character that is no blank and closes no container. -/
def Opens (text : List Char) : Prop :=
  ∃ c tail, text = c :: tail ∧ isBlank c = false ∧ c ≠ ']' ∧ c ≠ '\x7d'

theorem Opens.append {text : List Char} (opens : Opens text) (rest : List Char) :
    Opens (text ++ rest) := by
  obtain ⟨c, tail, rfl, solid, noBracket, noBrace⟩ := opens
  exact ⟨c, tail ++ rest, rfl, solid, noBracket, noBrace⟩

theorem Opens.skip_eq {text : List Char} (opens : Opens text) : skipBlanks text = text := by
  obtain ⟨c, tail, rfl, solid, -, -⟩ := opens
  exact skipBlanks_cons solid tail

/-- The first character of a number. -/
def IsNumeral (c : Char) : Prop := c.isDigit = true ∨ c = '-'

theorem IsNumeral.ne {c d : Char} (numeral : IsNumeral c) (noDigit : d.isDigit = false)
    (noSign : d ≠ '-') : c ≠ d := by
  rintro rfl
  rcases numeral with digit | sign
  · simp [noDigit] at digit
  · exact noSign sign

theorem IsNumeral.solid {c : Char} (numeral : IsNumeral c) : isBlank c = false := by
  simp [isBlank, numeral.ne (d := ' ') rfl (by decide), numeral.ne (d := '\t') rfl (by decide),
    numeral.ne (d := '\n') rfl (by decide), numeral.ne (d := '\r') rfl (by decide)]

theorem integerText_head (n : Int) : ∃ c tail, integerText n = c :: tail ∧ IsNumeral c := by
  cases n with
  | ofNat n =>
      rw [integerText_ofNat]
      cases digits : Nat.toDigits 10 n with
      | nil => exact absurd digits Nat.toDigits_ne_nil
      | cons c tail =>
          have member : c ∈ Nat.toDigits 10 n := by simp [digits]
          exact ⟨c, tail, rfl, .inl (Nat.isDigit_of_mem_toDigits (by decide) (by decide) member)⟩
  | negSucc n => exact ⟨'-', _, integerText_negSucc n, .inr rfl⟩

theorem opens_integerText (n : Int) : Opens (integerText n) := by
  obtain ⟨c, tail, text, numeral⟩ := integerText_head n
  exact ⟨c, tail, text, numeral.solid, numeral.ne rfl (by decide), numeral.ne rfl (by decide)⟩

theorem opens_stringText (s : String) : Opens (stringText s) :=
  ⟨_, _, rfl, by decide, by decide, by decide⟩

theorem Spells.opens : ∀ {j : Json} {text : List Char}, Spells j text → Opens text
  | .null, _, rfl => ⟨_, _, rfl, by decide, by decide, by decide⟩
  | .bool true, _, rfl => ⟨_, _, rfl, by decide, by decide, by decide⟩
  | .bool false, _, rfl => ⟨_, _, rfl, by decide, by decide, by decide⟩
  | .integer n, _, rfl => opens_integerText n
  | .string s, _, rfl => opens_stringText s
  | .array _, _, ⟨_, rfl, _⟩ => ⟨_, _, rfl, by decide, by decide, by decide⟩
  | .object _, _, ⟨_, rfl, _⟩ => ⟨_, _, rfl, by decide, by decide, by decide⟩

theorem opens_skipBlanks_append {text : List Char} (opens : Opens (skipBlanks text))
    (rest : List Char) : Opens (skipBlanks (text ++ rest)) := by
  have nonempty : (text.dropWhile isBlank).isEmpty = false := by
    obtain ⟨c, tail, head, -⟩ := opens
    rw [skipBlanks] at head
    simp [head]
  rw [skipBlanks, List.dropWhile_append, nonempty]
  exact opens.append rest

/-- Skipping the blanks in front of a padded token gets at the token. -/
theorem Padded.opens {spelling : List Char → Prop} {text : List Char}
    (padded : Padded spelling text) (opens : ∀ body, spelling body → Opens body) :
    Opens (skipBlanks text) := by
  obtain ⟨before, body, after, rfl, blank, spelled, -⟩ := padded
  have opened := (opens body spelled).append after
  rwa [List.append_assoc, skipBlanks_append blank, opened.skip_eq]

theorem SpellsItems.opens : ∀ {items : List Json} {text : List Char}, items ≠ [] →
    SpellsItems items text → Opens (skipBlanks text)
  | [], _, nonempty, _ => absurd rfl nonempty
  | [_], _, _, padded => Padded.opens padded fun _ => Spells.opens
  | _ :: _ :: _, _, _, ⟨_, _, rfl, padded, _⟩ =>
      opens_skipBlanks_append (padded.opens fun _ => Spells.opens) _

theorem Padded.opens_name {name : String} {text : List Char}
    (padded : Padded (· = stringText name) text) : Opens (skipBlanks text) :=
  padded.opens fun _ spelled => spelled ▸ opens_stringText name

theorem SpellsMembers.opens : ∀ {members : List (String × Json)} {text : List Char},
    members ≠ [] → SpellsMembers members text → Opens (skipBlanks text)
  | [], _, nonempty, _ => absurd rfl nonempty
  | [_], _, _, ⟨_, _, rfl, padded, _⟩ => opens_skipBlanks_append padded.opens_name _
  | _ :: _ :: _, _, _, ⟨_, _, _, rfl, padded, _, _⟩ => by
      rw [List.append_assoc]
      exact opens_skipBlanks_append padded.opens_name _

/-! ## Blanks in front -/

theorem readValue?_skipBlanks (fuel : Nat) (text : List Char) :
    readValue? fuel (skipBlanks text) = readValue? fuel text := by
  cases fuel with
  | zero => rfl
  | succ fuel => simp [readValue?]

theorem readItems?_skipBlanks (fuel : Nat) (text : List Char) :
    readItems? fuel (skipBlanks text) = readItems? fuel text := by
  cases fuel with
  | zero => rfl
  | succ fuel => simp [readItems?, readValue?_skipBlanks]

theorem readMembers?_skipBlanks (fuel : Nat) (text : List Char) :
    readMembers? fuel (skipBlanks text) = readMembers? fuel text := by
  cases fuel with
  | zero => rfl
  | succ fuel => simp [readMembers?]

theorem readValue?_blanks {blanks : List Char} (blank : Blank blanks) (fuel : Nat)
    (text : List Char) : readValue? fuel (blanks ++ text) = readValue? fuel text := by
  rw [← readValue?_skipBlanks, skipBlanks_append blank, readValue?_skipBlanks]

/-! ## Trees -/

theorem readValue?_numeral {c : Char} (numeral : IsNumeral c) (fuel : Nat) (text : List Char) :
    readValue? (fuel + 1) (c :: text) =
      (readInteger? (c :: text)).map fun (n, rest) => (.integer n, rest) := by
  rw [readValue?, skipBlanks_cons numeral.solid]
  simp [numeral.ne (d := '"') rfl (by decide), numeral.ne (d := '[') rfl (by decide),
    numeral.ne (d := '\x7b') rfl (by decide), numeral.ne (d := 't') rfl (by decide),
    numeral.ne (d := 'f') rfl (by decide), numeral.ne (d := 'n') rfl (by decide)]

/-- A name's blanks are left out in front and left over behind. -/
theorem readString?_padded {name : String} {key : List Char}
    (padded : Padded (· = stringText name) key) (rest : List Char) :
    ∃ text after, Blank after ∧ skipBlanks (key ++ rest) = '"' :: text ∧
      readString? (text.length + 1) text = some (name.toList, after ++ rest) := by
  obtain ⟨before, _, after, rfl, blank, rfl, blankAfter⟩ := padded
  obtain ⟨text, whole, read⟩ := readString?_stringText name (after ++ rest)
  refine ⟨text, after, blankAfter, ?_, read⟩
  rw [List.append_assoc, List.append_assoc, skipBlanks_append blank, whole]
  exact skipBlanks_cons (by decide) text

/-- Blanks around a value are left out in front and left over behind. -/
theorem readValue?_padded {j : Json} {fuel : Nat}
    (value : ∀ {text rest : List Char}, Spells j text → text.length ≤ fuel → NoDigit rest →
      readValue? fuel (text ++ rest) = some (j, rest))
    {text rest : List Char} (padded : Padded (Spells j) text) (enough : text.length ≤ fuel)
    (noDigit : NoDigit rest) :
    ∃ after, Blank after ∧ readValue? fuel (text ++ rest) = some (j, after ++ rest) := by
  obtain ⟨before, body, after, rfl, blank, spelled, blankAfter⟩ := padded
  have short : body.length ≤ fuel := by
    simp only [List.length_append] at enough
    omega
  have read := value spelled short (noDigit.blank_append blankAfter)
  refine ⟨after, blankAfter, ?_⟩
  rw [List.append_assoc, List.append_assoc, readValue?_blanks blank, read]

mutual

theorem readValue?_spells : ∀ {j : Json} {text rest : List Char} {fuel : Nat}, Spells j text →
    text.length ≤ fuel → NoDigit rest → readValue? fuel (text ++ rest) = some (j, rest)
  | j, text, rest, 0, spelled, enough, _ => by
      obtain ⟨c, tail, rfl, -⟩ := spelled.opens
      simp at enough
  | .null, _, rest, fuel + 1, rfl, _, _ => by
      simp [readValue?, nullText, skipBlanks, isBlank, after?]
  | .bool b, _, rest, fuel + 1, rfl, _, _ => by
      cases b <;> simp [readValue?, boolText, skipBlanks, isBlank, after?]
  | .integer n, _, rest, fuel + 1, rfl, _, noDigit => by
      have number := readInteger?_integerText n noDigit
      obtain ⟨c, tail, text, numeral⟩ := integerText_head n
      rw [text, List.cons_append] at number ⊢
      rw [readValue?_numeral numeral, number]
      rfl
  | .string s, _, rest, fuel + 1, rfl, _, _ => by
      obtain ⟨text, whole, read⟩ := readString?_stringText s rest
      simp [readValue?, whole, skipBlanks, isBlank, read]
  | .array [], _, rest, fuel + 1, ⟨body, rfl, blank⟩, _, _ => by
      have empty := skipBlanks_append blank (']' :: rest)
      simp [readValue?, skipBlanks_cons, isBlank, empty]
  | .array (item :: items), _, rest, fuel + 1, ⟨body, rfl, spelled⟩, enough, _ => by
      have short : body.length < fuel := by
        simp at enough
        omega
      have read : readItems? fuel (body ++ ']' :: rest) = some (item :: items, rest) :=
        readItems?_spells (by simp) spelled short
      obtain ⟨c, tail, head, -, noBracket, -⟩ :=
        opens_skipBlanks_append (spelled.opens (by simp)) (']' :: rest)
      rw [← readItems?_skipBlanks, head] at read
      simp [readValue?, skipBlanks_cons, isBlank, head, noBracket, read]
  | .object [], _, rest, fuel + 1, ⟨body, rfl, blank⟩, _, _ => by
      have empty := skipBlanks_append blank ('\x7d' :: rest)
      simp [readValue?, skipBlanks_cons, isBlank, empty]
  | .object (member :: members), _, rest, fuel + 1, ⟨body, rfl, spelled⟩, enough, _ => by
      have short : body.length < fuel := by
        simp at enough
        omega
      have read : readMembers? fuel (body ++ '\x7d' :: rest) = some (member :: members, rest) :=
        readMembers?_spells (by simp) spelled short
      obtain ⟨c, tail, head, -, -, noBrace⟩ :=
        opens_skipBlanks_append (spelled.opens (by simp)) ('\x7d' :: rest)
      rw [← readMembers?_skipBlanks, head] at read
      simp [readValue?, skipBlanks_cons, isBlank, head, noBrace, read]

theorem readItems?_spells : ∀ {items : List Json} {text rest : List Char} {fuel : Nat},
    items ≠ [] → SpellsItems items text → text.length < fuel →
      readItems? fuel (text ++ ']' :: rest) = some (items, rest)
  | [], _, _, _, nonempty, _, _ => absurd rfl nonempty
  | [item], text, rest, fuel + 1, _, padded, enough => by
      obtain ⟨after, blank, read⟩ := readValue?_padded readValue?_spells padded
        (Nat.le_of_lt_succ enough) (.cons (c := ']') rfl rest)
      simp [readItems?, read, skipBlanks_append blank, skipBlanks_cons, isBlank]
  | item :: next :: items, _, rest, fuel + 1, _, ⟨first, others, rfl, padded, spelled⟩, enough => by
      have short : first.length ≤ fuel ∧ others.length < fuel := by
        simp at enough
        omega
      obtain ⟨after, blank, read⟩ := readValue?_padded readValue?_spells padded short.1
        (.cons (c := ',') rfl (others ++ ']' :: rest))
      have tail : readItems? fuel (others ++ ']' :: rest) = some (next :: items, rest) :=
        readItems?_spells (by simp) spelled short.2
      simp [readItems?, read, tail, skipBlanks_append blank, skipBlanks_cons, isBlank]

theorem readMembers?_spells : ∀ {members : List (String × Json)} {text rest : List Char}
    {fuel : Nat}, members ≠ [] → SpellsMembers members text → text.length < fuel →
      readMembers? fuel (text ++ '\x7d' :: rest) = some (members, rest)
  | [], _, _, _, nonempty, _, _ => absurd rfl nonempty
  | [(name, value)], _, rest, fuel + 1, _, ⟨key, body, rfl, padded, paddedBody⟩, enough => by
      have short : body.length ≤ fuel := by
        simp at enough
        omega
      obtain ⟨after, blank, read⟩ := readValue?_padded readValue?_spells paddedBody short
        (.cons (c := '\x7d') rfl rest)
      obtain ⟨text, afterName, blankName, head, name⟩ :=
        readString?_padded padded (':' :: body ++ '\x7d' :: rest)
      simp at head
      simp [readMembers?, head, name, read, skipBlanks_append, blank, blankName, skipBlanks_cons,
        isBlank]
  | (name, value) :: next :: members, _, rest, fuel + 1, _,
      ⟨key, body, others, rfl, padded, paddedBody, spelled⟩, enough => by
      have short : body.length ≤ fuel ∧ others.length < fuel := by
        simp at enough
        omega
      obtain ⟨after, blank, read⟩ := readValue?_padded readValue?_spells paddedBody short.1
        (.cons (c := ',') rfl (others ++ '\x7d' :: rest))
      have tail : readMembers? fuel (others ++ '\x7d' :: rest) = some (next :: members, rest) :=
        readMembers?_spells (by simp) spelled short.2
      obtain ⟨text, afterName, blankName, head, name⟩ :=
        readString?_padded padded (':' :: body ++ ',' :: others ++ '\x7d' :: rest)
      simp at head
      simp [readMembers?, head, name, read, tail, skipBlanks_append, blank, blankName,
        skipBlanks_cons, isBlank]

end

theorem parse?_of_isTextOf {text : String} {j : Json} (spelled : IsTextOf text j) :
    parse? text = some j := by
  have value : ∃ after, Blank after ∧
      readValue? (text.toList.length + 1) (text.toList ++ []) = some (j, after ++ []) :=
    readValue?_padded readValue?_spells spelled (Nat.le_succ _) (by simp [NoDigit])
  obtain ⟨after, blank, read⟩ := value
  rw [List.append_nil, List.append_nil] at read
  simp only [parse?, parseChars?, read]
  simp [skipBlanks_blank blank]

theorem parse?_decodes : Decodes parse? := fun _ _ _ => parse?_of_isTextOf

end BoardCompiler.Json
