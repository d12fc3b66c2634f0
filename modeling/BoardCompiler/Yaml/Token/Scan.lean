/-
# BoardCompiler.Yaml.Token.Scan — a YAML text as tokens

The `Scanner` walks over the text and appends tokens. Two things depend on what
comes later. A word may turn out to be a key only at the `:` after it, so the
place of a possible key is remembered and the tokens that make it one are
inserted there; a place is forgotten with its line and after 1024 bytes. And
block collections open and close with the indentation: `indents` holds the
columns of those that are open.
-/
import BoardCompiler.Yaml.Token.Scalar

namespace BoardCompiler.Yaml

set_option autoImplicit false

/-- A place where a key may have started. -/
structure SimpleKey where
  /-- How many tokens stand before it. -/
  position : Nat
  /-- Whether nothing but a key can start there. -/
  required : Bool
  mark : Mark

structure Scanner where
  cursor : Cursor
  /-- The tokens so far, the last first. -/
  tokens : List Token
  /-- The possible key of every open flow collection, innermost first, and of the
  block context last. -/
  keys : List (Option SimpleKey)
  keyAllowed : Bool
  /-- The column of the innermost block collection, -1 without one. -/
  indent : Int
  /-- The columns around it. -/
  indents : List Int
  ended : Bool

namespace Scanner

def start (text : List Char) : Scanner :=
  ⟨⟨text, .start⟩, [], [none], true, -1, [], false⟩

def inFlow (s : Scanner) : Bool := 1 < s.keys.length

def mark (s : Scanner) : Mark := s.cursor.mark

def push (s : Scanner) (kind : TokenKind) (start stop : Mark) : Scanner :=
  { s with tokens := ⟨kind, start, stop⟩ :: s.tokens }

/-- Put a token of no width before the tokens from `position` on. -/
def insertAt (s : Scanner) (position : Nat) (kind : TokenKind) (mark : Mark) : Scanner :=
  let later := s.tokens.length - position
  { s with tokens := s.tokens.take later ++ ⟨kind, mark, mark⟩ :: s.tokens.drop later }

/-- Append a token of `width` characters and move past it. -/
def indicator (s : Scanner) (kind : TokenKind) (width : Nat) : Scanner :=
  let after := s.cursor.skip width
  { s.push kind s.mark after.mark with cursor := after }

/-- Past blanks, comments and line breaks. A tab may stand before a token where no
key can start; a line break lets a key start in the block context. A line may
start with a byte order mark, which is as wide as a blank. -/
def skipToToken : Nat → Scanner → Scanner
  | 0, s => s
  | fuel + 1, s =>
    let c := s.cursor
    let c := if c.mark.column == 0 && c.peek? = some '\uFEFF' then c.skip 1 else c
    let tabs := s.inFlow || !s.keyAllowed
    let c := (c.skipWhile fun x => x == ' ' || (tabs && x == '\t')).skipComment
    match c.lineBreak? with
    | some (_, c) =>
      skipToToken fuel { s with cursor := c, keyAllowed := s.keyAllowed || !s.inFlow }
    | none => { s with cursor := c }

/-- The key without its place, unless it is required. -/
def dropKey? : Option SimpleKey → Option (Option SimpleKey)
  | some key => if key.required then none else some none
  | none => some none

/-- How many bytes may stand between the start of a key and its `:`. -/
def keyLimit : Nat := 1024

/-- Forget the possible keys that a line break or too many bytes rule out. -/
def dropStaleKeys? (s : Scanner) : Option Scanner := do
  let keys ← s.keys.mapM fun key =>
    match key with
    | some k =>
      if k.mark.line < s.mark.line || k.mark.offset + keyLimit < s.mark.offset then dropKey? key
      else some key
    | none => some none
  return { s with keys }

/-- Forget the innermost possible key. -/
def forgetKey? (s : Scanner) : Option Scanner := do
  match s.keys with
  | [] => return s
  | key :: rest =>
    let key ← dropKey? key
    return { s with keys := key :: rest }

/-- Remember this place as a possible key, if one may start here. -/
def saveKey? (s : Scanner) : Option Scanner := do
  if !s.keyAllowed then return s
  let s ← s.forgetKey?
  let key := ⟨s.tokens.length, !s.inFlow && s.indent == s.mark.column, s.mark⟩
  return { s with keys := some key :: s.keys.tail }

def allowKey (s : Scanner) (allowed : Bool) : Scanner := { s with keyAllowed := allowed }

/-- Open a block collection if the column is further right than the innermost. -/
def openBlock (s : Scanner) (column : Nat) (open_ : Scanner → Scanner) : Scanner :=
  if !s.inFlow && s.indent < column then
    { open_ s with indents := s.indent :: s.indents, indent := column }
  else s

/-- Close the block collections that are further right than the column. -/
def closeBlocks (column : Int) : Nat → Scanner → Scanner
  | 0, s => s
  | fuel + 1, s =>
    if !s.inFlow && column < s.indent then
      closeBlocks column fuel
        { s.push .blockEnd s.mark s.mark with
          indent := s.indents.head?.getD (-1), indents := s.indents.tail }
    else s

def closeTo (s : Scanner) (column : Int) : Scanner := closeBlocks column (s.indents.length + 1) s

/-- The start of `---`, `...`, a directive or the end: every block is closed. -/
def leaveBlocks? (s : Scanner) : Option Scanner := do
  let s ← (s.closeTo (-1)).forgetKey?
  return s.allowKey false

def fetchEnd? (s : Scanner) : Option Scanner := do
  let mark := if s.mark.column == 0 then s.mark else s.mark.nextLine 0
  let s ← { s with cursor := { s.cursor with mark } }.leaveBlocks?
  return { s.push .streamEnd mark mark with ended := true }

def fetchDirective? (s : Scanner) : Option Scanner := do
  let s ← s.leaveBlocks?
  let (kind, stop, c) ← s.cursor.directive?
  return { s.push kind s.mark stop with cursor := c }

def fetchMarker? (s : Scanner) (kind : TokenKind) : Option Scanner := do
  let s ← s.leaveBlocks?
  return s.indicator kind 3

def fetchFlowStart? (s : Scanner) (kind : TokenKind) : Option Scanner := do
  let s ← s.saveKey?
  return { s with keys := none :: s.keys, keyAllowed := true }.indicator kind 1

def fetchFlowEnd? (s : Scanner) (kind : TokenKind) : Option Scanner := do
  let s ← s.forgetKey?
  let keys := if s.inFlow then s.keys.tail else s.keys
  return { s with keys, keyAllowed := false }.indicator kind 1

def fetchFlowEntry? (s : Scanner) : Option Scanner := do
  let s ← s.forgetKey?
  return (s.allowKey true).indicator .flowEntry 1

def fetchBlockEntry? (s : Scanner) : Option Scanner := do
  if !s.inFlow && !s.keyAllowed then none
  let s ← (s.openBlock s.mark.column fun s => s.push .blockSequenceStart s.mark s.mark).forgetKey?
  return (s.allowKey true).indicator .blockEntry 1

def fetchKey? (s : Scanner) : Option Scanner := do
  if !s.inFlow && !s.keyAllowed then none
  let s ← (s.openBlock s.mark.column fun s => s.push .blockMappingStart s.mark s.mark).forgetKey?
  return (s.allowKey !s.inFlow).indicator .key 1

def fetchValue? (s : Scanner) : Option Scanner := do
  match s.keys.head?.join with
  | some key =>
    let s := s.insertAt key.position .key key.mark
    let s := s.openBlock key.mark.column fun s =>
      s.insertAt key.position .blockMappingStart key.mark
    return { s with keys := none :: s.keys.tail, keyAllowed := false }.indicator .value 1
  | none =>
    if !s.inFlow && !s.keyAllowed then none
    let s := s.openBlock s.mark.column fun s => s.push .blockMappingStart s.mark s.mark
    return (s.allowKey !s.inFlow).indicator .value 1

/-- A token that may be a key or a part of one. -/
def fetchWord? (s : Scanner) (read : Cursor → Option (TokenKind × Cursor)) : Option Scanner := do
  let s ← s.saveKey?
  let (kind, c) ← read s.cursor
  return { s.push kind s.mark c.mark with cursor := c, keyAllowed := false }

def fetchQuoted? (s : Scanner) (quote : Char) : Option Scanner :=
  s.fetchWord? fun c => (c.quoted? quote).map fun (text, c) => (.scalar false text, c)

def fetchPlain? (s : Scanner) : Option Scanner := do
  let s ← s.saveKey?
  let (text, stop, broken, c) ← s.cursor.plain? s.inFlow (s.indent + 1)
  return { s.push (.scalar true text) s.mark stop with cursor := c, keyAllowed := broken }

def fetchBlockScalar? (s : Scanner) (literal : Bool) : Option Scanner := do
  let s ← s.forgetKey?
  let (text, c) ← s.cursor.block? literal s.indent
  return { s.push (.scalar false text) s.mark c.mark with cursor := c, keyAllowed := true }

/-- The characters that no plain scalar starts with, `-`, `?` and `:` apart. -/
def isIndicator (x : Char) : Bool :=
  [',', '[', ']', '\x7b', '\x7d', '#', '&', '*', '!', '|', '>', '\'', '"', '%', '@', '\x60'].contains x

/-- Whether a plain scalar starts with `x` before `next`. -/
def startsPlain (flow : Bool) (x : Char) (next : Option Char) : Bool :=
  if x == '-' then !(next.map isBlank).getD false
  else if x == '?' || x == ':' then !flow && !isBlankOrEnd next
  else !(isBlank x || isBreak x || isIndicator x)

/-- Append the tokens of the next word, if it has any. -/
def fetch? (s : Scanner) : Option Scanner := do
  let s ← (skipToToken (s.cursor.rest.length + 1) s).dropStaleKeys?
  let s := s.closeTo s.mark.column
  let next := s.cursor.ahead? 1
  match s.cursor.peek? with
  | none => s.fetchEnd?
  | some x =>
    if s.mark.column == 0 && x == '%' then s.fetchDirective?
    else if s.cursor.atDocumentMarker then
      s.fetchMarker? (if x == '-' then .documentStart else .documentEnd)
    else if x == '[' then s.fetchFlowStart? .flowSequenceStart
    else if x == '\x7b' then s.fetchFlowStart? .flowMappingStart
    else if x == ']' then s.fetchFlowEnd? .flowSequenceEnd
    else if x == '\x7d' then s.fetchFlowEnd? .flowMappingEnd
    else if x == ',' then s.fetchFlowEntry?
    else if x == '-' && isBlankOrEnd next then s.fetchBlockEntry?
    else if x == '?' && (s.inFlow || isBlankOrEnd next) then s.fetchKey?
    else if x == ':' && (s.inFlow || isBlankOrEnd next) then s.fetchValue?
    else if x == '*' then s.fetchWord? fun c => c.anchorName?.map fun (name, c) => (.aliasOf name, c)
    else if x == '&' then s.fetchWord? fun c => c.anchorName?.map fun (name, c) => (.anchor name, c)
    else if x == '!' then s.fetchWord? (Cursor.tag? s.inFlow)
    else if x == '|' && !s.inFlow then s.fetchBlockScalar? true
    else if x == '>' && !s.inFlow then s.fetchBlockScalar? false
    else if x == '\'' || x == '"' then s.fetchQuoted? x
    else if startsPlain s.inFlow x next then s.fetchPlain?
    else none

def run? : Nat → Scanner → Option Scanner
  | 0, _ => none
  | fuel + 1, s => if s.ended then some s else s.fetch?.bind (run? fuel)

end Scanner

/-- The tokens of a text, if it keeps to the grammar of tokens. -/
def tokens? (text : String) : Option (List Token) :=
  let chars := text.toList
  if chars.all isAllowed then
    (Scanner.run? (chars.length + 2) (.start chars)).map fun s => s.tokens.reverse
  else none

end BoardCompiler.Yaml
