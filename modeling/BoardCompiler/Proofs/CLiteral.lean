/-
# BoardCompiler.Proofs.CLiteral — which names a pair of quotes makes into literals

An escape is longer than what it denotes (`escape?_reads`). So what a literal denotes is at
most as long as the text between its quotes, and as long only if it holds no escape, in
which case it denotes that text (`body?_reads`). A text between quotes therefore denotes
itself exactly if each of its characters may stand for itself (`denoted?_quoted_iff`).
A device puts its name between quotes as it is, so its `name` member is a literal for its
name exactly if the name has no quote, backslash or line end (`name_denoted_iff`).
-/
import BoardCompiler.CLiteral
import BoardCompiler.Proofs.Builtin
import BoardCompiler.Proofs.ParserRegistry
import Mathlib.Tactic.SplitIfs

namespace BoardCompiler.CLiteral

set_option autoImplicit false

/-- The bytes of characters in UTF-8. -/
def utf8 (cs : List Char) : List UInt8 := cs.flatMap String.utf8EncodeChar

theorem utf8_cons (c : Char) (cs : List Char) :
    utf8 (c :: cs) = String.utf8EncodeChar c ++ utf8 cs := List.flatMap_cons

theorem length_utf8_cons (c : Char) (cs : List Char) :
    (utf8 (c :: cs)).length = c.utf8Size + (utf8 cs).length := by
  rw [utf8_cons, List.length_append, String.length_utf8EncodeChar]

theorem length_utf8_append (cs ds : List Char) :
    (utf8 (cs ++ ds)).length = (utf8 cs).length + (utf8 ds).length := by
  rw [utf8, List.flatMap_append, List.length_append]
  rfl

theorem length_le_utf8 (cs : List Char) : cs.length ≤ (utf8 cs).length := by
  induction cs with
  | nil => simp
  | cons c cs ih =>
      have one := c.utf8Size_pos
      rw [length_utf8_cons, List.length_cons]
      omega

/-! ## Escapes -/

theorem utf8Size_of_simpleEscape? {c d : Char} (escape : simpleEscape? c = some d) :
    d.utf8Size = 1 := by
  unfold simpleEscape? at escape
  split at escape <;> first
    | (cases escape; decide)
    | cases escape

theorem nameEscape?_reads {count : Nat} (digits : 4 ≤ count) {text rest : List Char}
    {bytes : List UInt8} (escape : escape?.nameEscape? count text = some (bytes, rest)) :
    ∃ read, text = read ++ rest ∧ bytes.length ≤ (utf8 read).length := by
  unfold escape?.nameEscape? at escape
  dsimp only at escape
  split_ifs at escape with exact
  simp only [Bool.and_eq_true, decide_eq_true_eq] at exact
  obtain ⟨c, -, made⟩ := Option.map_eq_some_iff.mp escape
  cases made
  refine ⟨text.take count, (List.take_append_drop count text).symm, ?_⟩
  have four := c.utf8Size_le_four
  have long := length_le_utf8 (text.take count)
  rw [String.length_utf8EncodeChar]
  omega

/-- A byte that digits at the start of a text spell. -/
theorem byte?_reads {base : Nat} {digits text rest : List Char} {bytes : List UInt8}
    (front : digits <+: text) (present : digits ≠ [])
    (escape : ((byte? base digits).map fun b => ([b], text.drop digits.length)) =
      some (bytes, rest)) :
    ∃ read, text = read ++ rest ∧ bytes.length ≤ (utf8 read).length := by
  obtain ⟨b, -, made⟩ := Option.map_eq_some_iff.mp escape
  cases made
  refine ⟨digits, List.prefix_iff_eq_append.mp front |>.symm, ?_⟩
  have long := length_le_utf8 digits
  have one := List.length_pos_of_ne_nil present
  rw [List.length_singleton]
  omega

theorem reads_cons (c : Char) {text rest : List Char} {bytes : List UInt8}
    (reads : ∃ read, text = read ++ rest ∧ bytes.length ≤ (utf8 read).length) :
    ∃ read, c :: text = read ++ rest ∧ bytes.length ≤ (utf8 read).length := by
  obtain ⟨read, parts, bound⟩ := reads
  refine ⟨c :: read, by rw [parts, List.cons_append], ?_⟩
  rw [length_utf8_cons]
  omega

/-- An escape denotes no more bytes than stand behind its backslash. -/
theorem escape?_reads {text rest : List Char} {bytes : List UInt8}
    (escape : escape? text = some (bytes, rest)) :
    ∃ read, text = read ++ rest ∧ bytes.length ≤ (utf8 read).length := by
  cases text with
  | nil => cases escape
  | cons c text =>
      unfold escape? at escape
      dsimp only at escape
      split_ifs at escape with octal hexadecimal absent short long
      · refine byte?_reads ?_ ?_ escape
        · exact (List.takeWhile_prefix _).trans (List.take_prefix 3 _)
        · simp [octal]
      · exact reads_cons c (byte?_reads (List.takeWhile_prefix _) (by simpa using absent) escape)
      · exact reads_cons c (nameEscape?_reads (by decide) escape)
      · exact reads_cons c (nameEscape?_reads (by decide) escape)
      · obtain ⟨d, simple, made⟩ := Option.map_eq_some_iff.mp escape
        cases made
        refine ⟨[c], rfl, ?_⟩
        have one := c.utf8Size_pos
        rw [String.length_utf8EncodeChar, utf8Size_of_simpleEscape? simple, length_utf8_cons]
        omega

/-! ## Literals -/

/-- What is read up to the closing quote denotes no more bytes than its own, and as many
only if it denotes itself. -/
theorem body?_reads {fuel : Nat} {text rest : List Char} {bytes : List UInt8}
    (body : body? fuel text = some (bytes, rest)) :
    ∃ read, text = read ++ '"' :: rest ∧ bytes.length ≤ (utf8 read).length ∧
      (bytes = utf8 read → ∀ c ∈ read, isPlain c = true) := by
  induction fuel generalizing text bytes with
  | zero => cases body
  | succ fuel ih =>
      cases text with
      | nil => cases body
      | cons c text =>
          unfold body? at body
          split_ifs at body with quote backslash line
          · cases body
            exact ⟨[], by rw [quote, List.nil_append], by simp, by simp⟩
          · simp only [Option.bind_eq_bind, Option.bind_eq_some_iff, Prod.exists] at body
            obtain ⟨first, between, escape, others, after, body, made⟩ := body
            cases made
            obtain ⟨escaped, parts, bound⟩ := escape?_reads escape
            obtain ⟨read, parts', bound', -⟩ := ih body
            -- the backslash is read and stands for no byte
            have short : (first ++ others).length < (utf8 (c :: (escaped ++ read))).length := by
              have one := c.utf8Size_pos
              rw [length_utf8_cons, length_utf8_append, List.length_append]
              omega
            refine ⟨c :: (escaped ++ read), by simp [parts, parts'], short.le, ?_⟩
            intro same
            rw [same] at short
            exact absurd short (lt_irrefl _)
          · simp only [Option.bind_eq_bind, Option.bind_eq_some_iff, Prod.exists] at body
            obtain ⟨others, after, body, made⟩ := body
            cases made
            obtain ⟨read, parts, bound, itself⟩ := ih body
            refine ⟨c :: read, by simp [parts], ?_, ?_⟩
            · rw [utf8_cons, List.length_append, List.length_append]
              omega
            · intro same
              rw [utf8_cons, List.append_cancel_left_eq] at same
              have plain : isPlain c = true := by
                simpa [isPlain, quote, backslash] using line
              exact List.forall_mem_cons.mpr ⟨plain, itself same⟩

theorem body?_plain : ∀ (cs : List Char) (fuel : Nat) (rest : List Char),
    (∀ c ∈ cs, isPlain c = true) → cs.length < fuel →
      body? fuel (cs ++ '"' :: rest) = some (utf8 cs, rest)
  | [], fuel + 1, rest, _, _ => by simp [body?, utf8]
  | c :: cs, fuel + 1, rest, plain, enough => by
      obtain ⟨first, others⟩ := List.forall_mem_cons.mp plain
      have tail := body?_plain cs fuel rest others (by simpa using enough)
      simp only [isPlain, Bool.and_eq_true, bne_iff_ne, ne_eq] at first
      obtain ⟨⟨⟨quote, backslash⟩, newline⟩, carriage⟩ := first
      simp [body?, quote, backslash, newline, carriage, tail, utf8_cons]

theorem toUTF8_eq (s : String) : s.toUTF8 = (utf8 s.toList).toByteArray :=
  String.utf8Encode_toList.symm

theorem toByteArray_inj {a b : List UInt8} (same : a.toByteArray = b.toByteArray) : a = b := by
  have data := congrArg (fun bytes => bytes.data.toList) same
  simpa using data

/-- A text between quotes denotes itself exactly if each of its characters stands for
itself. -/
theorem denoted?_quoted_iff (s : String) :
    denoted? ("\"" ++ s ++ "\"") = some s.toUTF8 ↔ ∀ c ∈ s.toList, isPlain c = true := by
  have text : ("\"" ++ s ++ "\"").toList = '"' :: (s.toList ++ ['"']) := by simp
  rw [denoted?, text, toUTF8_eq]
  constructor
  · intro denotes
    cases body : body? ((s.toList ++ ['"']).length + 1) (s.toList ++ ['"']) with
    | none => simp only [body, reduceCtorEq] at denotes
    | some result =>
        obtain ⟨bytes, rest⟩ := result
        obtain ⟨read, parts, -, itself⟩ := body?_reads body
        cases rest with
        | cons c rest => simp only [body, reduceCtorEq] at denotes
        | nil =>
            have same : s.toList = read := List.append_cancel_right parts
            simp only [body, Option.some.injEq] at denotes
            rw [same] at denotes ⊢
            exact itself (toByteArray_inj denotes)
  · intro plain
    simp [body?_plain s.toList (s.toList.length + 2) [] plain (by omega)]

end BoardCompiler.CLiteral

namespace BoardCompiler

open CLiteral

variable {name : String} {raw : RawConfig} {lookup : Option PeripheralRegistry}
  {descriptor : StructDescriptor}

theorem name_of_device
    (parsed : (Builtin.parsers.parseDevice name raw lookup).outcome = .ok descriptor) :
    descriptor.structInit.get? "name" = some (.text ("\"" ++ name ++ "\"")) := by
  obtain ⟨tag, parser, -, found, parsed⟩ := ParserRegistry.parseDevice_ok_iff.mp parsed
  rcases Builtin.device_cases found with ⟨-, rfl⟩ | ⟨-, rfl⟩ <;>
    (obtain ⟨ref, settings, -, -, rfl⟩ := DeviceParser.ofReader_ok_iff.mp parsed; rfl)

/-- The name member of a device denotes the device's name exactly if the name needs no
escape. -/
theorem name_denoted_iff
    (parsed : (Builtin.parsers.parseDevice name raw lookup).outcome = .ok descriptor) :
    ∃ text, descriptor.structInit.get? "name" = some (.text text) ∧
      (denoted? text = some name.toUTF8 ↔ ∀ c ∈ name.toList, isPlain c = true) :=
  ⟨_, name_of_device parsed, denoted?_quoted_iff name⟩

/-- A device with nothing but its peripheral. -/
def plainDevice : RawConfig :=
  ⟨.mapping
    [(.string "type", .string "gpio_ctrl"), (.string "peripherals", .sequence [.string "gpio-0"])]⟩

/-- What the device of a name is initialized with. -/
def plainDescriptor (name : String) : StructDescriptor :=
  GpioCtrl.descriptor name "gpio-0" ⟨0, 0⟩

theorem plainDevice_parses (name : String) :
    (Builtin.parsers.parseDevice name plainDevice none).outcome = .ok (plainDescriptor name) :=
  rfl

theorem lamp_name_denoted :
    (Builtin.parsers.parseDevice "lamp" plainDevice none).outcome =
        .ok (plainDescriptor "lamp") ∧
      ∃ text, (plainDescriptor "lamp").structInit.get? "name" = some (.text text) ∧
        (denoted? text = some "lamp".toUTF8 ↔ ∀ c ∈ "lamp".toList, isPlain c = true) :=
  ⟨plainDevice_parses "lamp", name_denoted_iff (plainDevice_parses "lamp")⟩

/-- A quote in a name ends the literal early. -/
theorem quoted_name_not_denoted :
    ¬ ∀ name raw descriptor,
      (Builtin.parsers.parseDevice name raw none).outcome = .ok descriptor →
        ∃ text, descriptor.structInit.get? "name" = some (.text text) ∧
          denoted? text = some name.toUTF8 := by
  intro always
  obtain ⟨text, member, denotes⟩ := always "a\"b" plainDevice _ (plainDevice_parses _)
  rw [name_of_device (plainDevice_parses _)] at member
  cases member
  have plain := (denoted?_quoted_iff "a\"b").mp denotes '"' (by decide)
  exact absurd plain (by decide)

end BoardCompiler
