/-
# BoardCompiler.Yaml.Cursor — a place in a YAML text

A `Cursor` is the text that is left and the `Mark` of its first character. Line
breaks are CR, LF, CR LF, NEL, LS and PS; all but the last two contribute a line
feed to the scalar they stand in.
-/

namespace BoardCompiler.Yaml

set_option autoImplicit false

/-- A position: bytes before it, lines before it, and characters before it on its
line. -/
structure Mark where
  offset : Nat
  line : Nat
  column : Nat
  deriving DecidableEq, Repr, Inhabited

namespace Mark

def start : Mark := ⟨0, 0, 0⟩

/-- Past a text on the same line. -/
def past (m : Mark) (text : List Char) : Mark :=
  ⟨m.offset + (text.map Char.utf8Size).foldl (· + ·) 0, m.line, m.column + text.length⟩

/-- The start of the next line, past a line break of `n` bytes. -/
def nextLine (m : Mark) (n : Nat) : Mark := ⟨m.offset + n, m.line + 1, 0⟩

end Mark

def isBlank (c : Char) : Bool := c == ' ' || c == '\t'

def isBreak (c : Char) : Bool :=
  c == '\r' || c == '\n' || c.toNat == 0x85 || c.toNat == 0x2028 || c.toNat == 0x2029

/-- Whether a character that may be missing is a blank, a line break or the end. -/
def isBlankOrEnd : Option Char → Bool
  | none => true
  | some c => isBlank c || isBreak c

/-- The characters of anchor names, directive names and tag handles. -/
def isWord (c : Char) : Bool := c.isAlphanum || c == '_' || c == '-'

/-- The characters a YAML text may hold. -/
def isAllowed (c : Char) : Bool :=
  let n := c.toNat
  n == 0x09 || n == 0x0A || n == 0x0D || (0x20 ≤ n && n ≤ 0x7E) || n == 0x85 ||
    (0xA0 ≤ n && n ≤ 0xD7FF) || (0xE000 ≤ n && n ≤ 0xFFFD) || 0x10000 ≤ n

structure Cursor where
  rest : List Char
  mark : Mark
  deriving Inhabited

namespace Cursor

def peek? (c : Cursor) : Option Char := c.rest.head?

/-- The character `n` places after the first. -/
def ahead? (c : Cursor) (n : Nat) : Option Char := c.rest[n]?

def startsWith (c : Cursor) (text : List Char) : Bool := text.isPrefixOf c.rest

/-- Past `n` characters that are no line breaks. -/
def skip (c : Cursor) (n : Nat) : Cursor := ⟨c.rest.drop n, c.mark.past (c.rest.take n)⟩

/-- The longest run of characters that satisfy `p`, which no line break does. -/
def takeWhile (c : Cursor) (p : Char → Bool) : List Char × Cursor :=
  let run := c.rest.takeWhile p
  (run, c.skip run.length)

def skipWhile (c : Cursor) (p : Char → Bool) : Cursor := (c.takeWhile p).2

/-- The rest of the line. -/
def takeLine (c : Cursor) : List Char × Cursor := c.takeWhile fun x => !isBreak x

/-- What a line break contributes to a scalar, and the cursor past it. -/
def lineBreak? (c : Cursor) : Option (List Char × Cursor) :=
  match c.rest with
  | '\r' :: '\n' :: rest => some (['\n'], ⟨rest, c.mark.nextLine 2⟩)
  | x :: rest =>
    if isBreak x then
      let text := if x.toNat == 0x2028 || x.toNat == 0x2029 then [x] else ['\n']
      some (text, ⟨rest, c.mark.nextLine x.utf8Size⟩)
    else none
  | [] => none

/-- Past a line break, if one stands here. -/
def skipBreak (c : Cursor) : Cursor :=
  match c.lineBreak? with
  | some (_, c) => c
  | none => c

/-- Past a comment, if one starts here. -/
def skipComment (c : Cursor) : Cursor :=
  if c.peek? = some '#' then c.takeLine.2 else c

/-- Whether the blanks and the comment up to here end the line. -/
def atLineEnd (c : Cursor) : Bool :=
  match c.peek? with
  | none => true
  | some x => isBreak x

/-- Whether `---` or `...` stands at the start of a line. -/
def atDocumentMarker (c : Cursor) : Bool :=
  c.mark.column == 0 && (c.startsWith ['-', '-', '-'] || c.startsWith ['.', '.', '.']) &&
    isBlankOrEnd (c.ahead? 3)

end Cursor

end BoardCompiler.Yaml
