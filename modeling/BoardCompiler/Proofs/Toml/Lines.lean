/-
# BoardCompiler.Proofs.Toml.Lines — how a document is read line by line

What the readers of lines accept, one reader after the other. A line that starts with
neither a bracket nor a comment is a pair (`line_of_pair`), a pair is a key, an equals
sign and a value (`pair_eq_some_iff`), and a value that starts with a quote is a string
(`value_quoted_iff`). `line_cases` says all that a line may do, and what each line keeps
is kept by all of them (`lines_keep`).
-/
import BoardCompiler.Toml.Document

namespace BoardCompiler.Toml

set_option autoImplicit false

namespace Reader

variable {α β : Type} {text between rest : List Char}

/-! ## One reader after the other -/

theorem bind_eq_some_iff {x : Reader α} {f : α → Reader β} {b : β} :
    (x >>= f) text = some (b, rest) ↔
      ∃ a between, x text = some (a, between) ∧ f a between = some (b, rest) := by
  show (x text >>= fun result => f result.1 result.2) = some (b, rest) ↔ _
  simp [Option.bind_eq_some_iff]

theorem bind_of_some {x : Reader α} {f : α → Reader β} {a : α} (read : x text = some (a, rest)) :
    (x >>= f) text = f a rest := by
  show (x text >>= fun result => f result.1 result.2) = f a rest
  rw [read]
  rfl

theorem pure_eq_some_iff {a b : α} :
    (pure a : Reader α) text = some (b, rest) ↔ a = b ∧ text = rest := by
  show some (a, text) = some (b, rest) ↔ _
  simp

theorem ofOption_eq_some_iff {x : Option α} {a : α} :
    ofOption x text = some (a, rest) ↔ x = some a ∧ text = rest := by
  cases x with
  | none => simp [ofOption, refuse]
  | some b => simp [ofOption, pure_eq_some_iff]

theorem spanned_eq_some_iff {x : Reader α} {a : α} {span : Span} :
    spanned x text = some ((a, span), rest) ↔
      x text = some (a, rest) ∧ span = ⟨text.length, rest.length⟩ := by
  unfold spanned
  cases read : x text with
  | none => simp
  | some result =>
      simp only [Option.some.injEq, Prod.mk.injEq]
      constructor
      · rintro ⟨⟨rfl, rfl⟩, rfl⟩
        exact ⟨rfl, rfl⟩
      · rintro ⟨rfl, rfl⟩
        exact ⟨⟨rfl, rfl⟩, rfl⟩

theorem expect_eq_some_iff {expected : Char} {u : Unit} :
    expect expected text = some (u, rest) ↔ text = expected :: rest := by
  cases text with
  | nil => simp [expect]
  | cons c text =>
      by_cases same : c = expected <;> simp [expect, same]

/-! ## Values -/

/-- A value that starts with a quote is a string. -/
theorem value_quoted_iff {depth : Nat} {more : List Char} {value : Value} :
    Reader.value depth ('"' :: more) = some (value, rest) ↔
      ∃ said, string ('"' :: more) = some (said, rest) ∧
        value = .string ⟨more.length + 1, rest.length⟩ said := by
  have reads : Reader.value depth ('"' :: more) =
      (spanned string >>= fun said => pure (.string said.2 said.1) : Reader Value)
        ('"' :: more) := by
    cases depth <;> rfl
  rw [reads, bind_eq_some_iff]
  constructor
  · rintro ⟨⟨said, span⟩, between, read, made⟩
    obtain ⟨rfl, rfl⟩ := pure_eq_some_iff.mp made
    obtain ⟨quoted, rfl⟩ := spanned_eq_some_iff.mp read
    exact ⟨said, quoted, rfl⟩
  · rintro ⟨said, read, rfl⟩
    exact ⟨(said, _), rest, spanned_eq_some_iff.mpr ⟨read, rfl⟩, rfl⟩

theorem pair_eq_some_iff {item : Reader Value} {way : List Key} {name : Key} {value : Value} :
    pair item text = some ((way, name, value), rest) ↔
      ∃ between, key text = some ((way, name), '=' :: between) ∧
        item (between.dropWhile isBlank) = some (value, rest) := by
  unfold pair
  rw [bind_eq_some_iff]
  constructor
  · rintro ⟨⟨way', name'⟩, _, named, read⟩
    obtain ⟨_, between, equals, read⟩ := bind_eq_some_iff.mp read
    obtain ⟨_, _, blank, read⟩ := bind_eq_some_iff.mp read
    obtain ⟨value', _, valued, made⟩ := bind_eq_some_iff.mp read
    cases made
    cases blank
    rw [expect_eq_some_iff.mp equals] at named
    exact ⟨between, named, valued⟩
  · rintro ⟨between, named, valued⟩
    refine ⟨_, _, named, bind_eq_some_iff.mpr ⟨(), between, expect_eq_some_iff.mpr rfl, ?_⟩⟩
    exact bind_eq_some_iff.mpr ⟨(), _, rfl, bind_eq_some_iff.mpr ⟨value, rest, valued, rfl⟩⟩

/-! ## Lines -/

variable {p p' : Progress} {c : Char}

theorem peek?_bind (f : Option Char → Reader β) : (peek? >>= f) text = f text.head? text := rfl

theorem blanks_bind (f : Unit → Reader β) (shown : isBlank c = false) :
    (blanks >>= f) (c :: text) = f () (c :: text) := by
  show f () ((c :: text).dropWhile isBlank) = _
  rw [List.dropWhile_cons_of_neg (by simp [shown])]

/-- A line that starts with no bracket, comment or line end is a pair. -/
theorem line_of_pair (table : c ≠ '[') (empty : (c = '#' || c = '\n' || c = '\r') = false) :
    line p (c :: text) =
      (do
        let (way, name, value) ← pair (value depthLimit)
        endOfLine
        ofOption (p.insert? way name value)) (c :: text) := by
  unfold line
  rw [peek?_bind]
  generalize next : (c :: text).head? = first
  split
  · exact absurd (Option.some.inj next) table
  · cases next
    rw [empty]
    rfl
  · cases next

theorem line_of_pair_eq_some_iff (table : c ≠ '[')
    (empty : (c = '#' || c = '\n' || c = '\r') = false) :
    line p (c :: text) = some (p', rest) ↔
      ∃ way name item after, pair (value depthLimit) (c :: text) = some ((way, name, item), after) ∧
        endOfLine after = some ((), rest) ∧ p.insert? way name item = some p' := by
  rw [line_of_pair table empty, bind_eq_some_iff]
  constructor
  · rintro ⟨⟨way, name, item⟩, after, paired, read⟩
    obtain ⟨_, _, ended, made⟩ := bind_eq_some_iff.mp read
    obtain ⟨inserted, rfl⟩ := ofOption_eq_some_iff.mp made
    exact ⟨way, name, item, after, paired, ended, inserted⟩
  · rintro ⟨way, name, item, after, paired, ended, inserted⟩
    exact ⟨_, after, paired,
      bind_eq_some_iff.mpr ⟨(), rest, ended, ofOption_eq_some_iff.mpr ⟨inserted, rfl⟩⟩⟩

theorem lines_of_line {fuel : Nat} (shown : isBlank c = false) :
    lines (fuel + 1) p (c :: text) = (line p >>= lines fuel) (c :: text) := by
  rw [lines, blanks_bind _ shown, peek?_bind]
  simp

/-- What a line does: nothing, or it closes the table that is being read and opens another,
or it adds a pair. -/
theorem line_cases (read : line p text = some (p', rest)) :
    p' = p ∨
    (∃ closed way header span, p.close? = some closed ∧
      (p.openTable? way header span closed = some p' ∨
        p.openItem? way header span closed = some p')) ∨
    ∃ way name item before after,
      pair (value depthLimit) before = some ((way, name, item), after) ∧
        p.insert? way name item = some p' := by
  unfold line at read
  obtain ⟨next, before, -, read⟩ := bind_eq_some_iff.mp read
  split at read
  · obtain ⟨closed, _, close, read⟩ := bind_eq_some_iff.mp read
    obtain ⟨⟨⟨double, way, header⟩, span⟩, _, -, read⟩ := bind_eq_some_iff.mp read
    obtain ⟨_, _, -, read⟩ := bind_eq_some_iff.mp read
    obtain ⟨opened, -⟩ := ofOption_eq_some_iff.mp read
    refine .inr (.inl ⟨closed, way, header, span, (ofOption_eq_some_iff.mp close).1, ?_⟩)
    cases double with
    | false => exact .inl opened
    | true => exact .inr opened
  · split at read
    · obtain ⟨_, _, -, read⟩ := bind_eq_some_iff.mp read
      obtain ⟨_, _, -, read⟩ := bind_eq_some_iff.mp read
      cases read
      exact .inl rfl
    · obtain ⟨⟨way, name, item⟩, after, paired, read⟩ := bind_eq_some_iff.mp read
      obtain ⟨_, _, -, read⟩ := bind_eq_some_iff.mp read
      exact .inr (.inr ⟨way, name, item, before, after, paired, (ofOption_eq_some_iff.mp read).1⟩)
  · cases read
    exact .inl rfl

/-- What every line keeps holds after all of them. -/
theorem lines_keep {P : Progress → Prop} {fuel : Nat}
    (keeps : ∀ {p p' text rest}, P p → line p text = some (p', rest) → P p')
    (holds : P p) (read : lines fuel p text = some (p', rest)) : P p' := by
  induction fuel generalizing p text with
  | zero => cases read
  | succ fuel ih =>
      obtain ⟨_, _, -, read⟩ := bind_eq_some_iff.mp read
      obtain ⟨next, _, -, read⟩ := bind_eq_some_iff.mp read
      split at read
      · cases read
        exact holds
      · obtain ⟨between, _, first, read⟩ := bind_eq_some_iff.mp read
        exact ih (keeps holds first) read

end Reader

/-- A document is read if its lines are and the last table can be closed. -/
theorem Value.ofToml?_eq_some_iff {text : String} {value : Value} :
    ofToml? text = some value ↔
      ∃ p rest entries,
        Reader.lines (text.toList.length + 1) (.start text.toList.length)
          (dropByteOrderMark text.toList) = some (p, rest) ∧
        p.close? = some entries ∧ value = .table (some p.rootSpan) (Draft.toValues entries) := by
  unfold ofToml?
  dsimp only
  cases Reader.lines (text.toList.length + 1) (.start text.toList.length)
    (dropByteOrderMark text.toList) with
  | none => simp
  | some result =>
      obtain ⟨p, rest⟩ := result
      constructor
      · intro closed
        obtain ⟨entries, close, rfl⟩ := Option.map_eq_some_iff.mp closed
        exact ⟨p, rest, entries, rfl, close, rfl⟩
      · rintro ⟨_, _, entries, ⟨⟩, close, rfl⟩
        exact Option.map_eq_some_iff.mpr ⟨entries, close, rfl⟩

end BoardCompiler.Toml
