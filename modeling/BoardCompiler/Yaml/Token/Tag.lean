/-
# BoardCompiler.Yaml.Token.Tag — the words after `%`, `&`, `*` and `!`

Directives, anchors, aliases and tags. Every reader takes a cursor and gives
back what it read and the cursor after it, or nothing where the text breaks the
grammar.
-/
import BoardCompiler.Yaml.Token

namespace BoardCompiler.Yaml

set_option autoImplicit false

def hexValue? (c : Char) : Option Nat :=
  if '0' ≤ c ∧ c ≤ '9' then some (c.toNat - '0'.toNat)
  else if 'a' ≤ c ∧ c ≤ 'f' then some (c.toNat - 'a'.toNat + 10)
  else if 'A' ≤ c ∧ c ≤ 'F' then some (c.toNat - 'A'.toNat + 10)
  else none

/-- How many bytes a UTF-8 sequence has that starts with `n`. -/
def sequenceWidth? (n : Nat) : Option Nat :=
  if n < 0x80 then some 1
  else if 0xC0 ≤ n ∧ n < 0xE0 then some 2
  else if 0xE0 ≤ n ∧ n < 0xF0 then some 3
  else if 0xF0 ≤ n ∧ n < 0xF8 then some 4
  else none

/-- `%` and two hexadecimal digits. -/
def escapedByte? : List Char → Option (Nat × List Char)
  | '%' :: a :: b :: rest => do
    let a ← hexValue? a
    let b ← hexValue? b
    return (a * 16 + b, rest)
  | _ => none

/-- `n` escaped bytes that continue a UTF-8 sequence. -/
def continuation? : Nat → List Char → Option (List UInt8 × List Char)
  | 0, text => some ([], text)
  | n + 1, text => do
    let (byte, rest) ← escapedByte? text
    if byte / 64 ≠ 2 then none
    let (bytes, rest) ← continuation? n rest
    return (UInt8.ofNat byte :: bytes, rest)

/-- The characters of a tag that stand for themselves; brackets and commas only
where no flow collection can end. -/
def isTagChar (bracketed : Bool) (c : Char) : Bool :=
  isWord c ||
    [';', '/', '?', ':', '@', '&', '=', '+', '$', '.', '!', '~', '*', '\'', '(', ')'].contains c ||
    (bracketed && [',', '[', ']'].contains c)

/-- The bytes of a tag's text, as far as it goes. -/
def tagBytes? (bracketed : Bool) : Nat → List Char → Option (List UInt8 × List Char)
  | 0, text => some ([], text)
  | _ + 1, [] => some ([], [])
  | fuel + 1, c :: rest =>
    if c = '%' then do
      let (byte, rest) ← escapedByte? (c :: rest)
      let width ← sequenceWidth? byte
      let (more, rest) ← continuation? (width - 1) rest
      let (bytes, rest) ← tagBytes? bracketed fuel rest
      return (UInt8.ofNat byte :: more ++ bytes, rest)
    else if isTagChar bracketed c then do
      let (bytes, rest) ← tagBytes? bracketed fuel rest
      return (UInt8.ofNat c.toNat :: bytes, rest)
    else some ([], c :: rest)

/-- The indicators that may follow an anchor without a blank. -/
def endsAnchor (c : Char) : Bool :=
  ['?', ':', ',', ']', '\x7d', '%', '@', '\x60'].contains c

namespace Cursor

/-- Past the characters up to `rest`, which is a tail of the line. -/
def movedTo (c : Cursor) (rest : List Char) : Cursor := c.skip (c.rest.length - rest.length)

/-- The text of a tag, given the characters of its handle that belong to it. A NUL
ends it, although more may be written. -/
def tagText? (c : Cursor) (bracketed : Bool) (head : List Char) :
    Option (List UInt8 × Cursor) := do
  let (bytes, rest) ← tagBytes? bracketed (c.rest.length + 1) c.rest
  if head.isEmpty && bytes.isEmpty then none
  let text := (head.drop 1).map (fun x => UInt8.ofNat x.toNat) ++ bytes
  return (text.takeWhile (· ≠ 0), c.movedTo rest)

/-- `!`, word characters, and a second `!` if one follows. -/
def tagHandle? (c : Cursor) : Option (List Char × Cursor) :=
  if c.peek? = some '!' then
    let (word, after) := (c.skip 1).takeWhile isWord
    if after.peek? = some '!' then some ('!' :: word ++ ['!'], after.skip 1)
    else some ('!' :: word, after)
  else none

/-- `%YAML 1.1` and the like: at most nine digits on either side of the point. -/
def versionDirective? (c : Cursor) : Option (TokenKind × Cursor) := do
  let (major, c) := (c.skipWhile isBlank).takeWhile Char.isDigit
  if major.isEmpty || 9 < major.length || c.peek? ≠ some '.' then none
  let (minor, c) := (c.skip 1).takeWhile Char.isDigit
  if minor.isEmpty || 9 < minor.length then none
  let number := fun (ds : List Char) => ds.foldl (fun n d => 10 * n + (d.toNat - '0'.toNat)) 0
  return (.versionDirective (number major) (number minor), c)

/-- `%TAG !handle! text`. -/
def tagDirective? (c : Cursor) : Option (TokenKind × Cursor) := do
  let (handle, c) ← (c.skipWhile isBlank).tagHandle?
  if handle ≠ ['!'] && (handle.length < 2 || handle.getLast? ≠ some '!') then none
  if !(c.peek?.map isBlank).getD false then none
  let (expansion, c) ← (c.skipWhile isBlank).tagText? true []
  if !isBlankOrEnd c.peek? then none
  return (.tagDirective handle expansion, c)

/-- A directive and the rest of its line, from its `%` on. The mark is where the
directive itself ends. -/
def directive? (c : Cursor) : Option (TokenKind × Mark × Cursor) := do
  let (name, c) := (c.skip 1).takeWhile isWord
  if name.isEmpty || !isBlankOrEnd c.peek? then none
  let (kind, c) ←
    if name = ['Y', 'A', 'M', 'L'] then c.versionDirective?
    else if name = ['T', 'A', 'G'] then c.tagDirective?
    else none
  let tail := (c.skipWhile isBlank).skipComment
  if !tail.atLineEnd then none
  return (kind, c.mark, tail.skipBreak)

/-- The name after `&` or `*`. -/
def anchorName? (c : Cursor) : Option (List Char × Cursor) := do
  let (name, c) := (c.skip 1).takeWhile isWord
  if name.isEmpty then none
  if isBlankOrEnd c.peek? || (c.peek?.map endsAnchor).getD false then return (name, c)
  else none

/-- A tag: `!<text>`, `!text`, `!handle!text` or `!` alone. -/
def tag? (flow : Bool) (c : Cursor) : Option (TokenKind × Cursor) := do
  let (kind, c) ←
    if c.ahead? 1 = some '<' then do
      let (suffix, c) ← (c.skip 2).tagText? true []
      if c.peek? ≠ some '>' then none
      some (TokenKind.tag [] suffix, c.skip 1)
    else do
      let (handle, c) ← c.tagHandle?
      if 2 ≤ handle.length && handle.getLast? = some '!' then
        let (suffix, c) ← c.tagText? false []
        some (TokenKind.tag handle suffix, c)
      else
        let (suffix, c) ← c.tagText? false handle
        if suffix.isEmpty then some (TokenKind.tag [] [UInt8.ofNat '!'.toNat], c)
        else some (TokenKind.tag ['!'] suffix, c)
  if isBlankOrEnd c.peek? || (flow && c.peek? = some ',') then return (kind, c)
  else none

end Cursor

end BoardCompiler.Yaml
