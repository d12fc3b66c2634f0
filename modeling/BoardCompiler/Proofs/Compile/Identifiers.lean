/-
# BoardCompiler.Proofs.Compile.Identifiers — the variables of a board are identifiers

`IsIdentifier` are the words `[A-Za-z_][A-Za-z0-9_]*`, which are the plain names but
the empty one (`isIdentifier_iff`). A variable name is one whatever it is made from
(`isIdentifier_defaultVarName`): its characters are those of an identifier once each
is mapped, the guard sees a digit in front exactly where the name has one, and the
suffix keeps it from being empty. Nothing of the name is changed if and only if it is
plain (`defaultVarName_eq_append_iff`). `variables_are_identifiers` says the same of
every variable that a board compiles to.
-/
import BoardCompiler.Proofs.Compile.Variables

namespace BoardCompiler

set_option autoImplicit false

/-- The words of ASCII letters, digits and `_` that start with a letter or `_`. -/
def IsIdentifier (word : String) : Prop :=
  ∃ first rest, word.toList = first :: rest ∧ (first.isAlpha = true ∨ first = '_') ∧
    ∀ c ∈ rest, c.isAlphanum = true ∨ c = '_'

/-- The letters come after the digits. -/
theorem isDigit_of_isAlpha {c : Char} (letter : c.isAlpha = true) : c.isDigit = false := by
  have above : 65 ≤ c.val.toNat := by
    rcases (Bool.or_eq_true _ _).mp letter with upper | lower
    · exact UInt32.le_iff_toNat_le.mp (of_decide_eq_true upper).1
    · have low := UInt32.le_iff_toNat_le.mp (of_decide_eq_true ((Bool.and_eq_true _ _).mp lower).1)
      have first : 'a'.val.toNat = 97 := rfl
      omega
  apply Bool.eq_false_iff.mpr
  intro digit
  have below := UInt32.le_iff_toNat_le.mp (of_decide_eq_true ((Bool.and_eq_true _ _).mp digit).2)
  have last : '9'.val.toNat = 57 := rfl
  omega

theorem isAlpha_or_eq_iff {c : Char} :
    c.isAlpha = true ∨ c = '_' ↔ (c.isAlphanum = true ∨ c = '_') ∧ c.isDigit = false := by
  constructor
  · rintro (letter | rfl)
    · exact ⟨.inl (by simp [Char.isAlphanum, letter]), isDigit_of_isAlpha letter⟩
    · decide
  · rintro ⟨alphanum | rfl, noDigit⟩
    · left
      simpa [Char.isAlphanum, noDigit] using alphanum
    · exact .inr rfl

/-- The identifiers are the plain names but the empty one. -/
theorem isIdentifier_iff {word : String} : IsIdentifier word ↔ word ≠ "" ∧ PlainName word := by
  rw [IsIdentifier, PlainName, ← String.toList_inj.ne]
  cases word.toList with
  | nil => simp
  | cons first rest =>
      simp only [List.cons.injEq, List.mem_cons, forall_eq_or_imp, List.head?_cons,
        Option.mem_def, Option.some.injEq, forall_eq']
      constructor
      · rintro ⟨_, _, ⟨rfl, rfl⟩, start, others⟩
        obtain ⟨allowed, noDigit⟩ := isAlpha_or_eq_iff.mp start
        exact ⟨by simp, ⟨allowed, others⟩, noDigit⟩
      · rintro ⟨-, ⟨allowed, others⟩, noDigit⟩
        exact ⟨first, rest, ⟨rfl, rfl⟩, isAlpha_or_eq_iff.mpr ⟨allowed, noDigit⟩, others⟩

theorem isIdentifierChar_identifierChar (c : Char) :
    isIdentifierChar (identifierChar c) = true := by
  unfold identifierChar
  split
  · next kept => exact kept
  · decide

/-- The guard puts only a `_` in front. -/
theorem mem_guardDigit {word : List Char} {c : Char} (member : c ∈ guardDigit word) :
    c = '_' ∨ c ∈ word := by
  cases word with
  | nil => exact .inr member
  | cons first rest =>
      rw [guardDigit] at member
      split at member
      · exact List.mem_cons.mp member
      · exact .inr member

/-- Whatever follows it, a guarded word does not start with a digit. -/
theorem head?_guardDigit_append {word suffix : List Char}
    (letter : ∀ c ∈ suffix.head?, c.isDigit = false) :
    ∀ c ∈ (guardDigit word ++ suffix).head?, c.isDigit = false := by
  cases word with
  | nil => exact letter
  | cons first rest =>
      rw [guardDigit]
      by_cases digit : first.isDigit = true
      · simp only [digit, if_true, List.cons_append, List.head?_cons, Option.mem_def,
          Option.some.injEq, forall_eq']
        decide
      · simp [digit]

theorem toList_defaultVarName (name : String) :
    (defaultVarName name).toList =
      guardDigit (name.toList.map identifierChar) ++ ['_', 'c', 'f', 'g'] := by
  rw [defaultVarName, String.toList_ofList]

theorem defaultVarName_eq_front (name : String) :
    defaultVarName name = String.ofList (guardDigit (name.toList.map identifierChar)) ++ "_cfg" := by
  rw [defaultVarName, String.ofList_append]

theorem plainName_defaultVarName (name : String) : PlainName (defaultVarName name) := by
  rw [PlainName, toList_defaultVarName]
  constructor
  · intro c member
    rcases List.mem_append.mp member with guarded | suffix
    · rcases mem_guardDigit guarded with rfl | mapped
      · exact .inr rfl
      · obtain ⟨d, _, rfl⟩ := List.mem_map.mp mapped
        exact isIdentifierChar_iff.mp (isIdentifierChar_identifierChar d)
    · have allowed : ['_', 'c', 'f', 'g'].all isIdentifierChar = true := by decide
      exact isIdentifierChar_iff.mp (List.all_eq_true.mp allowed c suffix)
  · exact head?_guardDigit_append (by simp)

theorem isIdentifier_defaultVarName (name : String) : IsIdentifier (defaultVarName name) := by
  refine isIdentifier_iff.mpr ⟨?_, plainName_defaultVarName name⟩
  intro empty
  have letters := congrArg String.toList empty
  rw [toList_defaultVarName] at letters
  simp at letters

/-- A guarded word that is its own before the guard did not start with a digit. -/
theorem head?_of_guardDigit_eq {word other : List Char} (same : guardDigit word = other)
    (lengths : word.length = other.length) :
    word = other ∧ ∀ c ∈ word.head?, c.isDigit = false := by
  cases word with
  | nil => exact ⟨same, by simp⟩
  | cons first rest =>
      rw [guardDigit] at same
      by_cases digit : first.isDigit = true
      · -- A guard that is put makes the word longer.
        rw [if_pos digit] at same
        have longer := congrArg List.length same
        simp only [List.length_cons] at longer lengths
        omega
      · rw [if_neg digit] at same
        exact ⟨same, by simpa using digit⟩

/-- A variable is its name and the suffix, unchanged, exactly for the plain names. -/
theorem defaultVarName_eq_append_iff {name : String} :
    defaultVarName name = name ++ "_cfg" ↔ PlainName name := by
  constructor
  · intro unchanged
    have guarded : guardDigit (name.toList.map identifierChar) = name.toList := by
      have letters := congrArg String.toList unchanged
      rw [toList_defaultVarName, String.toList_append] at letters
      exact List.append_cancel_right letters
    obtain ⟨kept, start⟩ := head?_of_guardDigit_eq guarded (List.length_map identifierChar)
    rw [kept] at start
    refine ⟨?_, start⟩
    intro c member
    rw [← kept] at member
    obtain ⟨d, _, rfl⟩ := List.mem_map.mp member
    exact isIdentifierChar_iff.mp (isIdentifierChar_identifierChar d)
  · exact defaultVarName_of_plain

/-- What a variable is for the name that it is made from. -/
structure VariableOf (name var : String) : Prop where
  identifier : IsIdentifier var
  suffix : ∃ front, var = front ++ "_cfg"
  unchanged_iff : var = name ++ "_cfg" ↔ PlainName name

theorem variableOf_defaultVarName (name : String) : VariableOf name (defaultVarName name) where
  identifier := isIdentifier_defaultVarName name
  suffix := ⟨_, defaultVarName_eq_front name⟩
  unchanged_iff := defaultVarName_eq_append_iff

namespace Board

theorem var_of_mem_entities {board : Board} {mode : Mode} {out : CompiledBoard}
    (compiled : Compiles board Builtin.parsers mode out) {entity : CompiledEntity}
    (member : entity ∈ out.entities) : entity.var = defaultVarName entity.name := by
  rcases mem_entities_cases compiled member with ⟨declared, _, made⟩ | ⟨declared, _, made⟩
  · rw [var_of_peripheral made, made.name]
  · rw [var_of_device made, made.name]

/-- A variable is an identifier that ends in the suffix, and is its name with the suffix
exactly where the name is plain: for every name, and for every entity of every board that
the built-in types compile. -/
theorem variables_are_identifiers :
    (∀ name, VariableOf name (defaultVarName name)) ∧
    ∀ (board : Board) (mode : Mode) (out : CompiledBoard),
      (board.compile Builtin.parsers mode).outcome = .ok out →
      ∀ entity ∈ out.entities,
        entity.var = defaultVarName entity.name ∧ VariableOf entity.name entity.var := by
  refine ⟨variableOf_defaultVarName, ?_⟩
  intro board mode out compiles entity member
  have named := var_of_mem_entities (compiles_of_ok compiles) member
  refine ⟨named, ?_⟩
  rw [named]
  exact variableOf_defaultVarName entity.name

/-- A peripheral without a name, one that starts with a digit, and a device whose name has
no ASCII letter. -/
def oddNames : Board where
  peripherals :=
    [⟨"", ⟨.mapping [(.string "name", .string ""), (.string "type", .string "ldo")]⟩⟩,
     ⟨"2nd pin", ⟨.mapping [(.string "name", .string "2nd pin"), (.string "type", .string "gpio")]⟩⟩]
  devices :=
    [⟨"键", ⟨.mapping
       [(.string "name", .string "键"), (.string "type", .string "gpio_ctrl"),
        (.string "peripherals", .sequence [.string "gpio-0"])]⟩⟩]

/-- All three are given identifiers, and only the first keeps its name. -/
theorem oddNames_vars :
    ∃ out, (oddNames.compile Builtin.parsers .dryRun).outcome = .ok out ∧
      out.entities.map CompiledEntity.var = ["_cfg", "_2nd_pin_cfg", "__cfg"] ∧
      (∀ entity ∈ out.entities, IsIdentifier entity.var) ∧
      ∀ entity ∈ out.entities, entity.var = entity.name ++ "_cfg" ↔ PlainName entity.name := by
  have compiles : (oddNames.compile Builtin.parsers .dryRun).outcome = .ok _ := rfl
  have vars := variables_are_identifiers.2 oddNames .dryRun _ compiles
  exact ⟨_, compiles, rfl, fun entity member => (vars entity member).2.identifier,
    fun entity member => (vars entity member).2.unchanged_iff⟩

end Board

end BoardCompiler
