/-
# BoardCompiler.Toml.Reader — the words of TOML texts

A `Reader` takes the characters that are left and gives back what it read and
what follows, or fails. This module reads what a document is made of: blanks,
comments, line ends, the four kinds of strings, keys, and runs of scalar
characters. `spanned` notes the stretch that a reader took.
-/
import BoardCompiler.Toml.Scalar
import BoardCompiler.Toml.Value

namespace BoardCompiler.Toml

set_option autoImplicit false

abbrev Reader (α : Type) : Type := StateT (List Char) Option α

namespace Reader

variable {α : Type}

def refuse : Reader α := fun _ => none

def peek? : Reader (Option Char) := fun text => some (text.head?, text)

/-- Past the next `count` characters. -/
def skip (count : Nat) : Reader Unit := fun text => some ((), text.drop count)

/-- Past `expected`, which has to come next. -/
def expect (expected : Char) : Reader Unit
  | c :: rest => if c = expected then some ((), rest) else none
  | [] => none

def takeWhile (p : Char → Bool) : Reader (List Char) := fun text =>
  some (text.takeWhile p, text.dropWhile p)

/-- Whether `expected` comes next. -/
def startsWith (expected : List Char) : Reader Bool := fun text =>
  some (expected.isPrefixOf text, text)

/-- What a reader reads and the stretch that it takes. -/
def spanned (x : Reader α) : Reader (α × Span) := fun text =>
  match x text with
  | some (a, rest) => some ((a, ⟨text.length, rest.length⟩), rest)
  | none => none

/-! ## Blanks and line ends -/

def isBlank (c : Char) : Bool := c = ' ' || c = '\t'

/-- Characters that may stand in comments and strings: all but controls. -/
def isText (c : Char) : Bool := c = '\t' || (0x20 ≤ c.toNat && c.toNat ≠ 0x7F)

/-- What follows the line end at the start of a text. -/
def afterNewline? : List Char → Option (List Char)
  | '\n' :: rest => some rest
  | '\r' :: '\n' :: rest => some rest
  | _ => none

def blanks : Reader Unit := do
  let _ ← takeWhile isBlank

/-- Past a comment, if one starts here. -/
def comment : Reader Unit := do
  if (← peek?) = some '#' then
    let _ ← takeWhile isText

/-- Past the end of a line or of the text. -/
def lineEnd : Reader Unit
  | [] => some ((), [])
  | text => (afterNewline? text).map fun rest => ((), rest)

/-- What may follow on a line that says all it has to. -/
def endOfLine : Reader Unit := do
  blanks
  comment
  lineEnd

/-- A text without blanks and line ends at its start. -/
def trimBlankLines : List Char → List Char
  | '\r' :: '\n' :: rest => trimBlankLines rest
  | c :: rest => if isBlank c || c = '\n' then trimBlankLines rest else c :: rest
  | [] => []

/-- A text without blanks, line ends and comments at its start. -/
def trimGap : (fuel : Nat) → List Char → List Char
  | 0, text => text
  | fuel + 1, text =>
    match trimBlankLines text with
    | '#' :: rest => trimGap fuel (rest.dropWhile isText)
    | rest => rest

/-- Past blanks, line ends and comments. -/
def gap : Reader Unit := fun text => some ((), trimGap (text.length + 1) text)

/-! ## Strings -/

/-- The character of a code point that exists. -/
def codePoint? (digits : List Char) : Option Char :=
  let n := Scalar.natural 16 digits
  if h : n.isValidChar then some (Char.ofNatAux n h) else none

/-- The character of an escape that starts after a backslash, and what follows it. -/
def escape? : List Char → Option (Char × List Char)
  | 'b' :: rest => some (Char.ofNat 0x08, rest)
  | 't' :: rest => some ('\t', rest)
  | 'n' :: rest => some ('\n', rest)
  | 'f' :: rest => some (Char.ofNat 0x0C, rest)
  | 'r' :: rest => some ('\r', rest)
  | '"' :: rest => some ('"', rest)
  | '\\' :: rest => some ('\\', rest)
  | 'u' :: rest => hexEscape? 4 rest
  | 'U' :: rest => hexEscape? 8 rest
  | _ => none
where
  /-- The code point of exactly `count` digits. -/
  hexEscape? (count : Nat) (text : List Char) : Option (Char × List Char) :=
    let digits := text.take count
    if digits.length = count && digits.all Scalar.isHexDigit then
      (codePoint? digits).map fun c => (c, text.drop count)
    else none

/-- The characters of a basic string after its opening quote. -/
def basicChars? : (fuel : Nat) → List Char → Option (List Char × List Char)
  | 0, _ => none
  | _ + 1, [] => none
  | fuel + 1, c :: rest =>
    if c = '"' then some ([], rest)
    else if c = '\\' then do
      let (c, rest) ← escape? rest
      let (cs, rest) ← basicChars? fuel rest
      return (c :: cs, rest)
    else if isText c then do
      let (cs, rest) ← basicChars? fuel rest
      return (c :: cs, rest)
    else none

/-- The characters of a literal string after its opening quote. -/
def literalChars? : List Char → Option (List Char × List Char)
  | [] => none
  | c :: rest =>
    if c = '\'' then some ([], rest)
    else if isText c then (literalChars? rest).map fun (cs, rest) => (c :: cs, rest)
    else none

/-- What follows a backslash at the end of a line: the text from the next character
that is no blank. -/
def afterLineContinuation? (text : List Char) : Option (List Char) :=
  (afterNewline? (text.dropWhile isBlank)).map trimBlankLines

/-- How a run of quotes ends a string of several lines: three of them close it, and
up to two in front belong to it. Fewer than three do not end it. -/
def closingQuotes? (quote : Char) (text : List Char) : Option (List Char × List Char) :=
  let run := (text.takeWhile (· = quote)).length
  if run < 3 then none
  else
    let kept := min (run - 3) 2
    some (List.replicate kept quote, text.drop (kept + 3))

/-- The characters of a basic string of several lines after its opening quotes. -/
def basicLines? : (fuel : Nat) → List Char → Option (List Char × List Char)
  | 0, _ => none
  | _ + 1, [] => none
  | fuel + 1, c :: rest =>
    if c = '"' then
      match closingQuotes? '"' (c :: rest) with
      | some result => some result
      | none => (basicLines? fuel rest).map fun (cs, rest) => (c :: cs, rest)
    else if c = '\\' then
      match afterLineContinuation? rest with
      | some rest => basicLines? fuel rest
      | none => do
        let (c, rest) ← escape? rest
        let (cs, rest) ← basicLines? fuel rest
        return (c :: cs, rest)
    else
      match afterNewline? (c :: rest) with
      | some rest => (basicLines? fuel rest).map fun (cs, rest) => ('\n' :: cs, rest)
      | none =>
        if isText c then (basicLines? fuel rest).map fun (cs, rest) => (c :: cs, rest) else none

/-- The characters of a literal string of several lines after its opening quotes. -/
def literalLines? : (fuel : Nat) → List Char → Option (List Char × List Char)
  | 0, _ => none
  | _ + 1, [] => none
  | fuel + 1, c :: rest =>
    if c = '\'' then
      match closingQuotes? '\'' (c :: rest) with
      | some result => some result
      | none => (literalLines? fuel rest).map fun (cs, rest) => (c :: cs, rest)
    else
      match afterNewline? (c :: rest) with
      | some rest => (literalLines? fuel rest).map fun (cs, rest) => ('\n' :: cs, rest)
      | none =>
        if isText c then (literalLines? fuel rest).map fun (cs, rest) => (c :: cs, rest) else none

/-- A text without the line end at its start, if there is one. -/
def dropNewline (text : List Char) : List Char := (afterNewline? text).getD text

/-- The text of a string, whose opening quote comes next. -/
def string : Reader String := fun text =>
  let ofChars := Option.map fun (cs, rest) => (String.ofList cs, rest)
  match text with
  | '"' :: '"' :: '"' :: rest => ofChars (basicLines? (rest.length + 1) (dropNewline rest))
  | '\'' :: '\'' :: '\'' :: rest => ofChars (literalLines? (rest.length + 1) (dropNewline rest))
  | '"' :: rest => ofChars (basicChars? (rest.length + 1) rest)
  | '\'' :: rest => ofChars (literalChars? rest)
  | _ => none

/-! ## Keys and scalars -/

def isBareKeyChar (c : Char) : Bool := c.isAlphanum || c = '-' || c = '_'

/-- One part of a key: bare, or a string of one line. -/
def keyText : Reader String := fun text =>
  match text with
  | '"' :: rest => (basicChars? (rest.length + 1) rest).map fun (cs, rest) => (String.ofList cs, rest)
  | '\'' :: rest => (literalChars? rest).map fun (cs, rest) => (String.ofList cs, rest)
  | text =>
    match text.takeWhile isBareKeyChar with
    | [] => none
    | word => some (String.ofList word, text.dropWhile isBareKeyChar)

/-- Parts of a key with dots between them and blanks around them. -/
def keyParts : (fuel : Nat) → Reader (List Key)
  | 0 => refuse
  | fuel + 1 => do
    blanks
    let (text, span) ← spanned keyText
    blanks
    if (← peek?) = some '.' then
      skip 1
      return ⟨text, span⟩ :: (← keyParts fuel)
    else return [⟨text, span⟩]

/-- How deep a value may be nested, and how many parts a key may have. -/
def depthLimit : Nat := 79

/-- The way to an entry: the parts of its key before the last, and the last. -/
def key : Reader (List Key × Key) := fun text =>
  match keyParts (text.length + 1) text with
  | none => none
  | some (parts, rest) =>
    if depthLimit < parts.length then none
    else parts.getLast?.map fun last => ((parts.dropLast, last), rest)

/-- Characters that end a scalar. -/
def endsScalar (c : Char) : Bool :=
  isBlank c || c = '\n' || c = '\r' || c = '#' || c = ',' || c = ']' || c = '\x7d'

/-- The run of a scalar. A date may be followed by a blank and a time of day. -/
def scalarRun (text : List Char) : List Char × List Char :=
  let run := fun (text : List Char) => text.span fun c => !endsScalar c
  let (first, rest) := run text
  match rest with
  | ' ' :: d :: more =>
    if Scalar.afterDate? first = some [] && d.isDigit then
      let (second, rest) := run (d :: more)
      (first ++ ' ' :: second, rest)
    else (first, rest)
  | rest => (first, rest)

def scalar : Reader Scalar := fun text =>
  let (run, rest) := scalarRun text
  (Scalar.ofText? run).map fun value => (value, rest)

end Reader

end BoardCompiler.Toml
