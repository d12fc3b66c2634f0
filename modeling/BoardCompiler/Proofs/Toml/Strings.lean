/-
# BoardCompiler.Proofs.Toml.Strings — which texts quotes make into strings of TOML

A basic string is at least as long as what it says, and as long only if it says itself
(`basicChars?_reads`); one of several lines ends with three quotes and is at least as long
(`basicLines?_reads`). So a text that stands between quotes at the end of a line, with no
three quotes further on to end a string of several lines, is read as itself exactly if each
of its characters may stand for itself (`string_quoted_iff`).
-/
import BoardCompiler.Toml.Reader
import Mathlib.Data.List.Infix
import Mathlib.Tactic.SplitIfs

namespace BoardCompiler.Toml.Reader

set_option autoImplicit false

/-- Characters that a basic string holds as they are. -/
def isPlain (c : Char) : Bool := c != '"' && c != '\\' && isText c

/-- The mark that ends a basic string of several lines. -/
def threeQuotes : List Char := ['"', '"', '"']

theorem isPlain_iff {c : Char} :
    isPlain c = true ↔ c ≠ '"' ∧ c ≠ '\\' ∧ isText c = true := by
  simp [isPlain, and_assoc]

/-! ## Line ends -/

theorem afterNewline?_suffix {text rest : List Char} (line : afterNewline? text = some rest) :
    rest <:+ text ∧ rest.length < text.length := by
  unfold afterNewline? at line
  split at line <;> cases line
  · exact ⟨List.suffix_cons _ _, by simp⟩
  · exact ⟨⟨['\r', '\n'], rfl⟩, by simp only [List.length_cons]; omega⟩

theorem trimBlankLines_suffix (text : List Char) : trimBlankLines text <:+ text := by
  fun_induction trimBlankLines text with
  | case1 rest ih => exact ih.trans ⟨['\r', '\n'], rfl⟩
  | case2 c rest _ _ ih => exact ih.trans (List.suffix_cons c rest)
  | case3 => exact List.suffix_rfl
  | case4 => exact List.suffix_rfl

theorem afterLineContinuation?_suffix {text rest : List Char}
    (continued : afterLineContinuation? text = some rest) : rest <:+ text := by
  obtain ⟨next, line, rfl⟩ := Option.map_eq_some_iff.mp continued
  exact (trimBlankLines_suffix next).trans
    ((afterNewline?_suffix line).1.trans (List.dropWhile_suffix isBlank))

theorem dropNewline_suffix (text : List Char) : dropNewline text <:+ text := by
  unfold dropNewline
  cases line : afterNewline? text with
  | none => exact List.suffix_rfl
  | some rest => exact (afterNewline?_suffix line).1

/-! ## Escapes -/

theorem ne_newline_of_isHexDigit {c : Char} (digit : Scalar.isHexDigit c = true) : c ≠ '\n' := by
  rintro rfl
  exact absurd digit (by decide)

theorem hexEscape?_reads {count : Nat} {text rest : List Char} {c : Char}
    (escape : escape?.hexEscape? count text = some (c, rest)) :
    ∃ read, text = read ++ rest ∧ '\n' ∉ read := by
  unfold escape?.hexEscape? at escape
  dsimp only at escape
  split_ifs at escape with exact
  simp only [Bool.and_eq_true, decide_eq_true_eq, List.all_eq_true] at exact
  obtain ⟨d, -, made⟩ := Option.map_eq_some_iff.mp escape
  cases made
  exact ⟨text.take count, (List.take_append_drop count text).symm,
    fun member => ne_newline_of_isHexDigit (exact.2 _ member) rfl⟩

/-- An escape takes some characters of its line. -/
theorem escape?_reads {text rest : List Char} {c : Char} (escape : escape? text = some (c, rest)) :
    ∃ read, text = read ++ rest ∧ read ≠ [] ∧ '\n' ∉ read := by
  unfold escape? at escape
  split at escape
  case h_8 | h_9 =>
    obtain ⟨read, parts, inside⟩ := hexEscape?_reads escape
    exact ⟨_ :: read, by rw [parts, List.cons_append], by simp, by simp [inside]⟩
  case h_10 => cases escape
  all_goals
    cases escape
    exact ⟨[_], rfl, by simp, by decide⟩

/-! ## Strings of one line -/

/-- What is read up to the closing quote is of one line and says no more characters than
its own, and as many only if it says itself. -/
theorem basicChars?_reads {fuel : Nat} {text cs rest : List Char}
    (string : basicChars? fuel text = some (cs, rest)) :
    ∃ read, text = read ++ '"' :: rest ∧ '\n' ∉ read ∧ cs.length ≤ read.length ∧
      (cs = read → ∀ c ∈ read, isPlain c = true) := by
  induction fuel generalizing text cs with
  | zero => cases string
  | succ fuel ih =>
      cases text with
      | nil => cases string
      | cons c text =>
          unfold basicChars? at string
          split_ifs at string with quote backslash shown
          · cases string
            exact ⟨[], by rw [quote, List.nil_append], by simp, by simp, by simp⟩
          · simp only [Option.bind_eq_bind, Option.bind_eq_some_iff, Prod.exists] at string
            obtain ⟨d, between, escape, others, after, string, made⟩ := string
            cases made
            obtain ⟨escaped, parts, present, inside⟩ := escape?_reads escape
            obtain ⟨read, parts', inside', bound, -⟩ := ih string
            have one := List.length_pos_of_ne_nil present
            have short : (d :: others).length < (c :: (escaped ++ read)).length := by
              simp only [List.length_cons, List.length_append]
              omega
            refine ⟨c :: (escaped ++ read), by simp [parts, parts'], ?_, short.le, ?_⟩
            · simp [backslash, inside, inside']
            · intro same
              rw [same] at short
              exact absurd short (lt_irrefl _)
          · simp only [Option.bind_eq_bind, Option.bind_eq_some_iff, Prod.exists] at string
            obtain ⟨others, after, string, made⟩ := string
            cases made
            obtain ⟨read, parts, inside, bound, itself⟩ := ih string
            have line : '\n' ≠ c := by
              rintro rfl
              exact absurd shown (by decide)
            refine ⟨c :: read, by simp [parts], by simp [line, inside], by simpa using bound, ?_⟩
            intro same
            exact List.forall_mem_cons.mpr
              ⟨isPlain_iff.mpr ⟨quote, backslash, shown⟩, itself (List.cons.inj same).2⟩

theorem basicChars?_plain : ∀ (cs : List Char) (fuel : Nat) (rest : List Char),
    (∀ c ∈ cs, isPlain c = true) → cs.length < fuel →
      basicChars? fuel (cs ++ '"' :: rest) = some (cs, rest)
  | [], fuel + 1, rest, _, _ => by simp [basicChars?]
  | c :: cs, fuel + 1, rest, plain, enough => by
      obtain ⟨first, others⟩ := List.forall_mem_cons.mp plain
      have tail := basicChars?_plain cs fuel rest others (by simpa using enough)
      obtain ⟨quote, backslash, shown⟩ := isPlain_iff.mp first
      simp [basicChars?, quote, backslash, shown, tail]

/-! ## Strings of several lines -/

theorem closingQuotes?_reads {text cs rest : List Char}
    (closed : closingQuotes? '"' text = some (cs, rest)) : text = cs ++ (threeQuotes ++ rest) := by
  unfold closingQuotes? at closed
  dsimp only at closed
  have run : text.takeWhile (· = '"') =
      List.replicate (text.takeWhile (· = '"')).length '"' :=
    List.eq_replicate_iff.mpr ⟨rfl, fun c member => by
      simpa using List.all_eq_true.mp List.all_takeWhile c member⟩
  have front := List.takeWhile_prefix (· = '"') (l := text)
  rw [run] at front
  generalize (text.takeWhile (· = '"')).length = n at closed front
  split_ifs at closed with few
  cases closed
  generalize kept : min (n - 3) 2 = k
  have enough : n = k + 3 + (n - (k + 3)) := by omega
  rw [enough, ← List.replicate_append_replicate] at front
  obtain ⟨more, parts⟩ := (List.prefix_append _ _).trans front
  rw [← parts, List.drop_left' List.length_replicate, ← List.replicate_append_replicate,
    List.append_assoc]
  rfl

/-- What is read up to the three closing quotes says no more characters than its own. -/
theorem basicLines?_reads {fuel : Nat} {text cs rest : List Char}
    (string : basicLines? fuel text = some (cs, rest)) :
    ∃ read, text = read ++ (threeQuotes ++ rest) ∧ cs.length ≤ read.length := by
  induction fuel generalizing text cs with
  | zero => cases string
  | succ fuel ih =>
      cases text with
      | nil => cases string
      | cons c text =>
          unfold basicLines? at string
          split at string
          · split at string
            · next result closed =>
                cases string
                exact ⟨cs, closingQuotes?_reads closed, le_rfl⟩
            · obtain ⟨⟨others, after⟩, string, made⟩ := Option.map_eq_some_iff.mp string
              cases made
              obtain ⟨read, parts, bound⟩ := ih string
              exact ⟨c :: read, by rw [parts, List.cons_append], by simpa using bound⟩
          split at string
          · split at string
            · next next continued =>
                obtain ⟨read, parts, bound⟩ := ih string
                obtain ⟨between, parts'⟩ := afterLineContinuation?_suffix continued
                refine ⟨c :: (between ++ read), by simp [← parts', parts], ?_⟩
                simp only [List.length_cons, List.length_append]
                omega
            · simp only [Option.bind_eq_bind, Option.bind_eq_some_iff, Prod.exists] at string
              obtain ⟨d, between, escape, others, after, string, made⟩ := string
              cases made
              obtain ⟨escaped, parts, present, -⟩ := escape?_reads escape
              obtain ⟨read, parts', bound⟩ := ih string
              refine ⟨c :: (escaped ++ read), by simp [parts, parts'], ?_⟩
              simp only [List.length_cons, List.length_append]
              omega
          split at string
          · next next line =>
              obtain ⟨⟨others, after⟩, string, made⟩ := Option.map_eq_some_iff.mp string
              cases made
              obtain ⟨read, parts, bound⟩ := ih string
              obtain ⟨⟨ended, parts'⟩, shorter⟩ := afterNewline?_suffix line
              refine ⟨ended ++ read, by rw [← parts', parts, List.append_assoc], ?_⟩
              rw [← parts', List.length_append] at shorter
              simp only [List.length_cons, List.length_append]
              omega
          · split at string
            · obtain ⟨⟨others, after⟩, string, made⟩ := Option.map_eq_some_iff.mp string
              cases made
              obtain ⟨read, parts, bound⟩ := ih string
              exact ⟨c :: read, by rw [parts, List.cons_append], by simpa using bound⟩
            · cases string

/-! ## A text between quotes -/

section Quoted

variable {fuel : Nat} {cs rest after : List Char}

/-- A string of several lines that says the text ends after the line of the text. -/
theorem threeQuotes_of_basicLines? {next : List Char}
    (text : cs ++ '"' :: '\n' :: rest = '"' :: '"' :: next)
    (string : basicLines? fuel (dropNewline next) = some (cs, after)) :
    threeQuotes <:+: rest := by
  obtain ⟨read, parts, bound⟩ := basicLines?_reads string
  obtain ⟨dropped, parts'⟩ := dropNewline_suffix next
  rw [← parts', parts] at text
  have closing : threeQuotes ++ after <:+ cs ++ '"' :: '\n' :: rest :=
    ⟨'"' :: '"' :: (dropped ++ read), by simp [text]⟩
  have behind : rest <:+ cs ++ '"' :: '\n' :: rest := ⟨cs ++ ['"', '\n'], by simp⟩
  -- as much is said as read, so the closing quotes stand behind the text and its quote
  have lengths := congrArg List.length text
  have inside : threeQuotes ++ after <:+ rest := by
    refine List.suffix_of_suffix_length_le closing behind ?_
    simp only [List.length_append, List.length_cons] at lengths ⊢
    omega
  exact (List.prefix_append threeQuotes after).isInfix.trans inside.isInfix

/-- A string of one line that says the text ends with the line of the text. -/
theorem isPlain_of_basicChars?
    (string : basicChars? fuel (cs ++ '"' :: '\n' :: rest) = some (cs, after)) :
    ∀ c ∈ cs, isPlain c = true := by
  obtain ⟨read, parts, line, bound, itself⟩ := basicChars?_reads string
  have front : read ++ ['"'] <+: cs ++ '"' :: '\n' :: rest := ⟨after, by simp [parts]⟩
  have front' : cs ++ ['"', '\n'] <+: cs ++ '"' :: '\n' :: rest := ⟨rest, by simp⟩
  have same : cs = read := by
    rcases bound.eq_or_lt with equal | shorter
    · exact List.append_inj_left parts equal
    · -- a longer string would hold the line end
      have inside := List.prefix_of_prefix_length_le front' front
        (by simpa using Nat.succ_le_of_lt shorter)
      have newline : '\n' ∈ read ++ ['"'] := inside.subset (by simp)
      exact absurd newline (by simp [line])
  rw [same]
  exact itself same

/-- A text whose characters stand for themselves is read as itself. -/
theorem string_quoted (plain : ∀ c ∈ cs, isPlain c = true) :
    string ('"' :: (cs ++ '"' :: '\n' :: rest)) = some (String.ofList cs, '\n' :: rest) := by
  have chars := basicChars?_plain cs ((cs ++ '"' :: '\n' :: rest).length + 1) ('\n' :: rest) plain
    (by simp only [List.length_append]; omega)
  unfold string
  dsimp only
  split
  case h_1 next text =>
    cases cs with
    | nil => cases (List.cons.inj (List.cons.inj text).2).2
    | cons c cs =>
        obtain ⟨quote, -, -⟩ := isPlain_iff.mp (plain c List.mem_cons_self)
        exact absurd (List.cons.inj (List.cons.inj text).2).1 quote
  case h_3 next text =>
    cases text
    rw [chars]
    rfl
  case h_5 single _ => exact absurd rfl (single _)
  all_goals
    next text => exact absurd (List.cons.inj text).1 (by decide)

/-- A text between quotes at the end of a line is read as itself exactly if each of its
characters stands for itself, unless a string of several lines may end further on. -/
theorem string_quoted_iff (single : ¬ threeQuotes <:+: rest) :
    (∃ after, string ('"' :: (cs ++ '"' :: '\n' :: rest)) = some (String.ofList cs, after)) ↔
      ∀ c ∈ cs, isPlain c = true := by
  refine ⟨?_, fun plain => ⟨_, string_quoted plain⟩⟩
  rintro ⟨after, read⟩
  unfold string at read
  dsimp only at read
  split at read
  case h_1 next text =>
    obtain ⟨⟨said, after⟩, lines, made⟩ := Option.map_eq_some_iff.mp read
    obtain ⟨same, rfl⟩ := Prod.mk.inj made
    cases String.ofList_injective same
    exact absurd (threeQuotes_of_basicLines? (List.cons.inj text).2 lines) single
  case h_3 next text =>
    obtain ⟨⟨said, after⟩, chars, made⟩ := Option.map_eq_some_iff.mp read
    obtain ⟨same, rfl⟩ := Prod.mk.inj made
    cases String.ofList_injective same
    cases text
    exact isPlain_of_basicChars? chars
  case h_5 => cases read
  all_goals
    next text => exact absurd (List.cons.inj text).1 (by decide)

end Quoted

end BoardCompiler.Toml.Reader
