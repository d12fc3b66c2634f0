/-
# BoardCompiler.Proofs.Json.Tokens — the reader on single tokens

Blanks in front of a token are skipped (`skipBlanks_append`), an escaped string is read
back character by character up to its closing quote (`readString?_escaped`), and the
decimals of a number are read back as the number whenever no digit follows
(`readInteger?_integerText`). No token starts with a blank or a closing bracket
(`Opens`), which is what tells a filled container from an empty one.
-/
import BoardCompiler.Proofs.Json.Spelling
import Mathlib.Data.List.DropRight
import Mathlib.Data.List.TakeDrop
import Mathlib.Tactic.SplitIfs

namespace BoardCompiler.Json

set_option autoImplicit false

/-! ## Blanks -/

theorem skipBlanks_append {blanks : List Char} (blank : Blank blanks) (text : List Char) :
    skipBlanks (blanks ++ text) = skipBlanks text :=
  List.dropWhile_append_of_pos blank

theorem skipBlanks_cons {c : Char} (solid : isBlank c = false) (text : List Char) :
    skipBlanks (c :: text) = c :: text := by
  simp [skipBlanks, solid]

@[simp] theorem skipBlanks_skipBlanks (text : List Char) :
    skipBlanks (skipBlanks text) = skipBlanks text :=
  List.dropWhile_idempotent isBlank text

theorem skipBlanks_blank {blanks : List Char} (blank : Blank blanks) : skipBlanks blanks = [] := by
  simpa [skipBlanks] using skipBlanks_append blank []

/-! ## Strings -/

theorem hexValue?_hexDigit {n : Nat} (small : n < 16) : hexValue? (hexDigit n) = some n := by
  have table : ∀ n : Fin 16, hexValue? (hexDigit n) = some n.val := by decide
  exact table ⟨n, small⟩

/-- The escape of a control character without a letter of its own. -/
theorem readCodePoint?_control {c : Char} (control : c.toNat < 0x20) (rest : List Char) :
    readCodePoint? ('0' :: '0' :: hexDigit (c.toNat / 16) :: hexDigit (c.toNat % 16) :: rest) =
      some (c, rest) := by
  have high := hexValue?_hexDigit (n := c.toNat / 16) (by omega)
  have low := hexValue?_hexDigit (n := c.toNat % 16) (by omega)
  have zero : hexValue? '0' = some 0 := by decide
  have whole : c.toNat / 16 * 16 + c.toNat % 16 = c.toNat := by omega
  have plain : ¬ (0xD800 ≤ c.toNat ∧ c.toNat < 0xDC00) ∧
      ¬ (0xDC00 ≤ c.toNat ∧ c.toNat < 0xE000) := by
    omega
  simp [readCodePoint?, readUnit?, zero, high, low, whole, plain]

theorem simpleEscape?_u : simpleEscape? 'u' = none := by decide

/-- An escape of one letter. -/
theorem readString?_letter (letter : Char) {c : Char} (escape : simpleEscape? letter = some c)
    (fuel : Nat) (text : List Char) :
    readString? (fuel + 1) ('\\' :: letter :: text) =
      (readString? fuel text).map fun (cs, rest) => (c :: cs, rest) := by
  have noUnit : letter ≠ 'u' := by
    rintro rfl
    simp [simpleEscape?_u] at escape
  cases read : readString? fuel text <;> simp [readString?, noUnit, escape, read]

/-- One character's spelling takes one round of the reader. -/
theorem readString?_escapeChar (fuel : Nat) (c : Char) (text : List Char) :
    readString? (fuel + 1) (escapeChar c ++ text) =
      (readString? fuel text).map fun (cs, rest) => (c :: cs, rest) := by
  unfold escapeChar
  split_ifs with quote slash newline carriage tab backspace feed control
  · subst quote
    exact readString?_letter '"' rfl fuel text
  · subst slash
    exact readString?_letter '\\' rfl fuel text
  · subst newline
    exact readString?_letter 'n' rfl fuel text
  · subst carriage
    exact readString?_letter 'r' rfl fuel text
  · subst tab
    exact readString?_letter 't' rfl fuel text
  · have same : Char.ofNat 0x08 = c := backspace ▸ Char.ofNat_toNat c
    exact readString?_letter 'b' (same ▸ rfl) fuel text
  · have same : Char.ofNat 0x0C = c := feed ▸ Char.ofNat_toNat c
    exact readString?_letter 'f' (same ▸ rfl) fuel text
  · have unit := readCodePoint?_control control text
    cases read : readString? fuel text <;> simp [readString?, unit, read]
  · cases read : readString? fuel text <;> simp [readString?, quote, slash, control, read]

theorem readString?_escaped : ∀ (cs : List Char) (fuel : Nat) (rest : List Char),
    cs.length < fuel →
      readString? fuel (cs.flatMap escapeChar ++ '"' :: rest) = some (cs, rest)
  | [], fuel + 1, rest, _ => by simp [readString?]
  | c :: cs, fuel + 1, rest, enough => by
      have tail := readString?_escaped cs fuel rest (by simpa using enough)
      rw [List.flatMap_cons, List.append_assoc, readString?_escapeChar, tail]
      rfl

theorem escapeChar_ne_nil (c : Char) : escapeChar c ≠ [] := by
  unfold escapeChar
  split_ifs <;> simp

theorem length_le_escaped (cs : List Char) : cs.length ≤ (cs.flatMap escapeChar).length := by
  induction cs with
  | nil => simp
  | cons c cs ih =>
      have spelled := List.length_pos_of_ne_nil (escapeChar_ne_nil c)
      simp only [List.length_cons, List.flatMap_cons, List.length_append]
      omega

/-- The text behind an opening quote always holds fuel enough for the string. -/
theorem readString?_stringText (s : String) (rest : List Char) :
    ∃ text, stringText s ++ rest = '"' :: text ∧
      readString? (text.length + 1) text = some (s.toList, rest) := by
  refine ⟨s.toList.flatMap escapeChar ++ '"' :: rest, by simp [stringText], ?_⟩
  have enough := length_le_escaped s.toList
  refine readString?_escaped s.toList _ rest ?_
  simp only [List.length_append]
  omega

/-! ## Numbers -/

/-- No digit stands in front, so that a number before it ends here. -/
def NoDigit (text : List Char) : Prop := ∀ c ∈ text.head?, c.isDigit = false

theorem NoDigit.cons {c : Char} (plain : c.isDigit = false) (text : List Char) :
    NoDigit (c :: text) := by
  simpa [NoDigit] using plain

theorem isDigit_of_isBlank {c : Char} (blank : isBlank c = true) : c.isDigit = false := by
  have cases : c = ' ' ∨ c = '\t' ∨ c = '\n' ∨ c = '\r' := by
    simpa [isBlank, or_assoc] using blank
  rcases cases with rfl | rfl | rfl | rfl <;> rfl

theorem NoDigit.blank_append {blanks text : List Char} (blank : Blank blanks)
    (noDigit : NoDigit text) : NoDigit (blanks ++ text) := by
  cases blanks with
  | nil => exact noDigit
  | cons c blanks => exact .cons (isDigit_of_isBlank (blank c (by simp))) _

theorem span_digits {digits rest : List Char} (all : ∀ c ∈ digits, c.isDigit = true)
    (noDigit : NoDigit rest) : (digits ++ rest).span Char.isDigit = (digits, rest) := by
  have front : (digits ++ rest).takeWhile Char.isDigit = digits := by
    rw [List.takeWhile_append_of_pos all]
    cases rest with
    | nil => simp
    | cons c rest => simp [noDigit c (by simp)]
  have back : (digits ++ rest).dropWhile Char.isDigit = rest := by
    rw [List.dropWhile_append_of_pos all]
    cases rest with
    | nil => rfl
    | cons c rest => simp [noDigit c (by simp)]
  rw [List.span_eq_takeWhile_dropWhile, front, back]

theorem toDigits_head_ne_zero (n : Nat) (positive : 0 < n) :
    (Nat.toDigits 10 n).head? ≠ some '0' := by
  induction n using Nat.strongRecOn with
  | ind n ih =>
      rcases Nat.lt_or_ge n 10 with small | large
      · have table : ∀ d : Fin 10, 0 < d.val → d.val.digitChar ≠ '0' := by decide
        rw [Nat.toDigits_of_lt_base small]
        simpa using table ⟨n, small⟩ positive
      · have front := ih (n / 10) (by omega) (by omega)
        rw [Nat.toDigits_of_base_le (by decide) large,
          List.head?_append_of_ne_nil _ Nat.toDigits_ne_nil]
        exact front

theorem toDigits_ne_leadingZero (n : Nat) (d : Char) (ds : List Char) :
    Nat.toDigits 10 n ≠ '0' :: d :: ds := by
  intro zero
  rcases Nat.eq_zero_or_pos n with rfl | positive
  · simp at zero
  · have head := toDigits_head_ne_zero n positive
    simp [zero] at head

theorem readNatural?_toDigits (n : Nat) {rest : List Char} (noDigit : NoDigit rest) :
    readNatural? (Nat.toDigits 10 n ++ rest) = some (n, rest) := by
  have digits : ∀ c ∈ Nat.toDigits 10 n, c.isDigit = true :=
    fun c member => Nat.isDigit_of_mem_toDigits (by decide) (by decide) member
  have value : natValue (Nat.toDigits 10 n) = n := Nat.ofDigitChars_ten_toDigits
  have nonempty : Nat.toDigits 10 n ≠ [] := Nat.toDigits_ne_nil
  have plain := toDigits_ne_leadingZero n
  simp only [readNatural?, span_digits digits noDigit]
  rw [value]

theorem integerText_ofNat (n : Nat) : integerText (Int.ofNat n) = Nat.toDigits 10 n := by
  rw [integerText, Int.toString_eq_repr]
  exact Nat.toList_repr

theorem integerText_negSucc (n : Nat) :
    integerText (Int.negSucc n) = '-' :: Nat.toDigits 10 (n + 1) := by
  rw [integerText, Int.toString_eq_repr, Int.repr, String.toList_append, Nat.toList_repr]
  rfl

theorem readInteger?_integerText (n : Int) {rest : List Char} (noDigit : NoDigit rest) :
    readInteger? (integerText n ++ rest) = some (n, rest) := by
  cases n with
  | ofNat n =>
      have natural := readNatural?_toDigits n noDigit
      have unsigned : ∀ tail, Nat.toDigits 10 n ++ rest ≠ '-' :: tail := by
        intro tail signed
        have head : (Nat.toDigits 10 n).head? = some '-' := by
          rw [← List.head?_append_of_ne_nil _ Nat.toDigits_ne_nil, signed, List.head?_cons]
        have digit := Nat.isDigit_of_mem_toDigits (by decide) (by decide) (List.mem_of_head? head)
        exact absurd digit (by decide)
      rw [integerText_ofNat, readInteger?.eq_2 _ unsigned, natural]
      rfl
  | negSucc n =>
      have natural := readNatural?_toDigits (n + 1) noDigit
      rw [integerText_negSucc, List.cons_append, readInteger?, natural]
      rfl

end BoardCompiler.Json
