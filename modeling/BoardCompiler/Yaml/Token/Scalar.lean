/-
# BoardCompiler.Yaml.Token.Scalar — the text of scalars

Plain, quoted and block scalars. Plain and quoted scalars run over several lines
by one rule, kept in a `Gap`: one line break between two words is a space, more
of them are one break less, and blanks around breaks are dropped. `fuel` is the
length of the text that is left.
-/
import BoardCompiler.Yaml.Token.Tag

namespace BoardCompiler.Yaml

set_option autoImplicit false

/-- What stands between two runs of a scalar: blanks, or line breaks with all
blanks around them dropped. -/
structure Gap where
  blanks : List Char
  broken : Bool
  /-- The text of the first line break. -/
  first : List Char
  /-- The texts of the further line breaks. -/
  more : List Char

namespace Gap

def empty : Gap := ⟨[], false, [], []⟩

/-- A line break that is escaped leaves no text. -/
def escapedBreak : Gap := ⟨[], true, [], []⟩

def addBlank (g : Gap) (c : Char) : Gap :=
  if g.broken then g else { g with blanks := g.blanks ++ [c] }

def addBreak (g : Gap) (text : List Char) : Gap :=
  if g.broken then { g with more := g.more ++ text } else ⟨[], true, text, []⟩

def text (g : Gap) : List Char :=
  if !g.broken then g.blanks
  else if g.first = ['\n'] then (if g.more.isEmpty then [' '] else g.more)
  else g.first ++ g.more

end Gap

namespace Cursor

/-- The blanks and line breaks up to the next character. A tab may not stand in
for the indentation of a further line. -/
def gap? (indent : Int) : Nat → Cursor → Gap → Option (Gap × Cursor)
  | 0, c, g => some (g, c)
  | fuel + 1, c, g =>
    match c.rest with
    | [] => some (g, c)
    | x :: _ =>
      if isBlank x then
        if g.broken && c.mark.column < indent && x == '\t' then none
        else gap? indent fuel (c.skip 1) (g.addBlank x)
      else
        match c.lineBreak? with
        | some (text, c) => gap? indent fuel c (g.addBreak text)
        | none => some (g, c)

/-- The length of the run of a plain scalar up to a blank, a line break or what
ends the scalar. In a flow collection no indicator may follow a colon. -/
def plainRun? (flow : Bool) : List Char → Option Nat
  | [] => some 0
  | x :: rest =>
    if isBlank x || isBreak x then some 0
    else if flow && x == ':' && (rest.head?.map [',', '?', '[', ']', '\x7b', '\x7d'].contains).getD false then
      none
    else if x == ':' && isBlankOrEnd rest.head? then some 0
    else if flow && [',', '[', ']', '\x7b', '\x7d'].contains x then some 0
    else (plainRun? flow rest).map (· + 1)

/-- The runs of a plain scalar after `text` and a gap: its whole text, where it
ends, whether a line break follows it, and the cursor after that. -/
def plainLines? (flow : Bool) (indent : Int) :
    Nat → Cursor → List Char → Gap → Mark → Option (List Char × Mark × Bool × Cursor)
  | 0, c, text, g, stop => some (text, stop, g.broken, c)
  | fuel + 1, c, text, g, stop => do
    if c.atDocumentMarker || c.peek? = some '#' then return (text, stop, g.broken, c)
    let n ← plainRun? flow c.rest
    if n = 0 then return (text, stop, g.broken, c)
    let text := text ++ g.text ++ c.rest.take n
    let after := c.skip n
    if after.rest.isEmpty || !isBlankOrEnd after.peek? then return (text, after.mark, false, after)
    let (g, next) ← gap? indent (after.rest.length + 1) after .empty
    if !flow && next.mark.column < indent then return (text, after.mark, g.broken, next)
    plainLines? flow indent fuel next text g after.mark

/-- A plain scalar whose further lines are indented by `indent` at least. -/
def plain? (c : Cursor) (flow : Bool) (indent : Int) :
    Option (List Char × Mark × Bool × Cursor) :=
  plainLines? flow indent (c.rest.length + 1) c [] .empty c.mark

/-- The run of a single-quoted scalar up to a blank, a line break or the closing quote. -/
def singleRun : Nat → List Char → List Char × List Char
  | 0, text => ([], text)
  | _ + 1, [] => ([], [])
  | fuel + 1, x :: rest =>
    if x = '\'' then
      match rest with
      | '\'' :: rest =>
        let (run, rest) := singleRun fuel rest
        ('\'' :: run, rest)
      | rest => ([], '\'' :: rest)
    else if isBlank x || isBreak x then ([], x :: rest)
    else
      let (run, rest) := singleRun fuel rest
      (x :: run, rest)

/-- The character of an escape that is one letter long. -/
def escapedChar? (c : Char) : Option Char :=
  match c with
  | '0' => some (Char.ofNat 0x00)
  | 'a' => some (Char.ofNat 0x07)
  | 'b' => some (Char.ofNat 0x08)
  | 't' => some '\t'
  | '\t' => some '\t'
  | 'n' => some '\n'
  | 'v' => some (Char.ofNat 0x0B)
  | 'f' => some (Char.ofNat 0x0C)
  | 'r' => some '\r'
  | 'e' => some (Char.ofNat 0x1B)
  | ' ' => some ' '
  | '"' => some '"'
  | '/' => some '/'
  | '\\' => some '\\'
  | 'N' => some (Char.ofNat 0x85)
  | '_' => some (Char.ofNat 0xA0)
  | 'L' => some (Char.ofNat 0x2028)
  | 'P' => some (Char.ofNat 0x2029)
  | _ => none

/-- How many hexadecimal digits follow an escape letter. -/
def escapeWidth? (c : Char) : Option Nat :=
  match c with
  | 'x' => some 2
  | 'u' => some 4
  | 'U' => some 8
  | _ => none

/-- The number that `n` hexadecimal digits spell, after the digits before them. -/
def hexNumber? : Nat → Nat → List Char → Option (Nat × List Char)
  | 0, value, text => some (value, text)
  | n + 1, value, x :: rest => do
    let d ← hexValue? x
    hexNumber? n (value * 16 + d) rest
  | _ + 1, _, [] => none

/-- The character of an escape, from the letter after the backslash on. -/
def escape? : List Char → Option (Char × List Char)
  | [] => none
  | e :: rest =>
    match escapeWidth? e with
    | none => (escapedChar? e).map fun c => (c, rest)
    | some width => do
      let (value, rest) ← hexNumber? width 0 rest
      if (0xD800 ≤ value ∧ value ≤ 0xDFFF) ∨ 0x10FFFF < value then none
      return (Char.ofNat value, rest)

/-- The run of a double-quoted scalar up to a blank, a line break, an escaped line
break or the closing quote. -/
def doubleRun? : Nat → List Char → Option (List Char × List Char)
  | 0, text => some ([], text)
  | _ + 1, [] => some ([], [])
  | fuel + 1, x :: rest =>
    if x = '"' || isBlank x || isBreak x then some ([], x :: rest)
    else if x = '\\' then
      if (rest.head?.map isBreak).getD false then some ([], x :: rest)
      else do
        let (c, rest) ← escape? rest
        let (run, rest) ← doubleRun? fuel rest
        return (c :: run, rest)
    else do
      let (run, rest) ← doubleRun? fuel rest
      return (x :: run, rest)

/-- The lines of a quoted scalar after `text`, up to and past the closing quote. -/
def quotedLines? (quote : Char) : Nat → Cursor → List Char → Option (List Char × Cursor)
  | 0, _, _ => none
  | fuel + 1, c, text => do
    if c.atDocumentMarker then none
    let (run, rest) ←
      if quote = '"' then doubleRun? (c.rest.length + 1) c.rest
      else some (singleRun (c.rest.length + 1) c.rest)
    let text := text ++ run
    let c := c.movedTo rest
    let (c, g) := if c.peek? = some '\\' then ((c.skip 1).skipBreak, Gap.escapedBreak) else (c, Gap.empty)
    match c.peek? with
    | none => none
    | some x =>
      if x = quote then return (text, c.skip 1)
      else
        let (g, c) ← gap? 0 (c.rest.length + 1) c g
        quotedLines? quote fuel c (text ++ g.text)

/-- A quoted scalar, from its opening quote on. -/
def quoted? (c : Cursor) (quote : Char) : Option (List Char × Cursor) :=
  quotedLines? quote (c.rest.length + 1) (c.skip 1) []

/-- Which line breaks at the end of a block scalar belong to it. -/
inductive Chomping where
  | strip
  | clip
  | keep
  deriving DecidableEq

/-- The indicators after `|` or `>`: chomping and an indentation, in either order. -/
def blockHeader? (c : Cursor) : Option (Chomping × Option Nat × Cursor) :=
  let chomping? := fun (c : Cursor) =>
    match c.peek? with
    | some '+' => some (Chomping.keep, c.skip 1)
    | some '-' => some (Chomping.strip, c.skip 1)
    | _ => none
  let indent? := fun (c : Cursor) =>
    match c.peek? with
    | some x => if x.isDigit then some (x.toNat - '0'.toNat, c.skip 1) else none
    | none => none
  let checked := fun (result : Chomping × Option Nat × Cursor) =>
    if result.2.1 = some 0 then none else some result
  match chomping? c with
  | some (chomping, c) =>
    match indent? c with
    | some (n, c) => checked (chomping, some n, c)
    | none => some (chomping, none, c)
  | none =>
    match indent? c with
    | some (n, c) =>
      match chomping? c with
      | some (chomping, c) => checked (chomping, some n, c)
      | none => checked (.clip, some n, c)
    | none => some (.clip, none, c)

/-- Whether the cursor has not reached an indentation; one not known yet is not reached. -/
def before (indent : Option Nat) (c : Cursor) : Bool :=
  match indent with
  | some n => c.mark.column < n
  | none => true

/-- Past the spaces of the indentation: up to column `indent`, or all of them. -/
def skipIndent (indent : Option Nat) : Nat → Cursor → Cursor
  | 0, c => c
  | fuel + 1, c =>
    if c.peek? = some ' ' && c.before indent then
      skipIndent indent fuel (c.skip 1)
    else c

/-- The line breaks and indentation before the next line of a block scalar: their
text and the widest indentation seen. A tab may not stand in for it. -/
def blockBreaks? (indent : Option Nat) :
    Nat → Cursor → List Char → Nat → Option (List Char × Nat × Cursor)
  | 0, c, text, widest => some (text, widest, c)
  | fuel + 1, c, text, widest =>
    let c := skipIndent indent c.rest.length c
    let widest := max widest c.mark.column
    if c.peek? = some '\t' && c.before indent then none
    else
      match c.lineBreak? with
      | some (more, c) => blockBreaks? indent fuel c (text ++ more) widest
      | none => some (text, widest, c)

/-- The lines of a block scalar at `indent`, after `text`: the last line's break is
still `leading`, the breaks after it are `trailing`. A folded break between two
lines that start with no blank is a space. -/
def blockLines? (literal : Bool) (indent : Nat) :
    Nat → Cursor → (text leading trailing : List Char) → (leadingBlank : Bool) →
      Option (List Char × List Char × List Char × Cursor)
  | 0, c, text, leading, trailing, _ => some (text, leading, trailing, c)
  | fuel + 1, c, text, leading, trailing, leadingBlank =>
    match c.peek? with
    | none => some (text, leading, trailing, c)
    | some x =>
      if c.mark.column ≠ indent then some (text, leading, trailing, c)
      else do
        let blank := isBlank x
        let joint :=
          if !literal && leading.head? = some '\n' && !leadingBlank && !blank then
            (if trailing.isEmpty then [' '] else [])
          else leading
        let (line, c) := c.takeLine
        let text := text ++ joint ++ trailing ++ line
        let (leading, c) := c.lineBreak?.getD ([], c)
        let (trailing, _, c) ← blockBreaks? (some indent) (c.rest.length + 1) c [] 0
        blockLines? literal indent fuel c text leading trailing blank

/-- A block scalar inside a node indented by `parent`, from its `|` or `>` on. -/
def block? (c : Cursor) (literal : Bool) (parent : Int) : Option (List Char × Cursor) := do
  let (chomping, increment, c) ← (c.skip 1).blockHeader?
  let c := (c.skipWhile isBlank).skipComment
  if !c.atLineEnd then none
  let c := c.skipBreak
  let given := increment.map fun n => (max parent 0).toNat + n
  let (trailing, widest, c) ← blockBreaks? given (c.rest.length + 1) c [] 0
  let indent := given.getD (max widest (max (parent + 1) 1).toNat)
  let (text, leading, trailing, c) ←
    blockLines? literal indent (c.rest.length + 1) c [] [] trailing false
  return (text ++ (if chomping = .strip then [] else leading) ++
    (if chomping = .keep then trailing else []), c)

end Cursor

end BoardCompiler.Yaml
