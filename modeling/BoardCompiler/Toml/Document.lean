/-
# BoardCompiler.Toml.Document — TOML text as trees

`Value.ofToml?` reads a whole document. Its lines are pairs of a key and a value,
headers of tables and of arrays of tables, comments and nothing. Pairs belong to
the table of the header before them; a table takes its place among the others
when the next header or the end of the text closes it.
-/
import BoardCompiler.Toml.Draft
import BoardCompiler.Toml.Reader

namespace BoardCompiler.Toml

set_option autoImplicit false

/-! ## Values -/

namespace Reader

def scalarValue (span : Span) : Scalar → Value
  | .integer n => .integer span n
  | .float x => .float span x
  | .boolean b => .boolean span b
  | .dateTime text => .dateTime span text

/-- A value that holds no others. -/
def leaf : Reader Value := do
  let next ← peek?
  if next = some '"' || next = some '\'' then
    let (text, span) ← spanned string
    return .string span text
  else
    let (value, span) ← spanned scalar
    return scalarValue span value

/-- The items of an array after its opening bracket. -/
def items (item : Reader Value) : (fuel : Nat) → Reader (List Value)
  | 0 => refuse
  | fuel + 1 => do
    gap
    if (← peek?) = some ']' then
      skip 1
      return []
    let value ← item
    gap
    if (← peek?) = some ',' then
      skip 1
      return value :: (← items item fuel)
    expect ']'
    return [value]

/-- A key and its value, up to the end of the value. -/
def pair (item : Reader Value) : Reader (List Key × Key × Value) := do
  let (way, name) ← key
  expect '='
  blanks
  return (way, name, ← item)

/-- The entries of a table after its opening brace. -/
def pairs (item : Reader Value) : (fuel : Nat) → Draft.Entries → Reader Draft.Entries
  | 0, _ => refuse
  | fuel + 1, entries => do
    let (way, name, value) ← pair item
    blanks
    match Draft.insertPair way name value entries with
    | none => refuse
    | some entries =>
      if (← peek?) = some ',' then
        skip 1
        pairs item fuel entries
      else
        expect '\x7d'
        return entries

/-- The entries of a table between braces, which are all on one line. -/
def inlineTable (item : Reader Value) : Reader Draft.Entries := do
  expect '\x7b'
  blanks
  if (← peek?) = some '\x7d' then
    skip 1
    return []
  else
    let rest ← get
    pairs item (rest.length + 1) []

/-- The items of an array between brackets. -/
def array (item : Reader Value) : Reader (List Value) := do
  expect '['
  let rest ← get
  items item (rest.length + 1)

/-- A value that holds at most `depth` others inside one another. -/
def value : (depth : Nat) → Reader Value
  | 0 => leaf
  | depth + 1 => do
    match ← peek? with
    | some '[' =>
      let (items, span) ← spanned (array (value depth))
      return .array (some span) items
    | some '\x7b' =>
      let (entries, span) ← spanned (inlineTable (value depth))
      return .table (some span) (Draft.toValues entries)
    | _ => leaf

end Reader

/-! ## Tables -/

/-- Where a table of a document belongs. -/
inductive Place where
  | root
  | table (way : List Key) (name : Key)
  /-- The end of an array of tables. -/
  | item (way : List Key) (name : Key)

/-- The tables that are closed, and the one that is being read. -/
structure Progress where
  /-- The stretch from the start of the text to the end of the last pair of the root. -/
  rootSpan : Span
  closed : Draft.Entries
  place : Place
  span : Span
  entries : Draft.Entries

namespace Progress

/-- At the start of a text of that length. -/
def start (length : Nat) : Progress :=
  ⟨⟨length, length⟩, [], .root, ⟨length, length⟩, []⟩

/-- The table that is being read. -/
def draft (p : Progress) : Draft := .table .written (some p.span) p.entries

/-- All tables with the one that is being read in its place. -/
def close? (p : Progress) : Option Draft.Entries :=
  match p.place with
  | .root => some p.entries
  | .table way name =>
    Draft.descend .implied way (fun _ inner => some (inner ++ [(name, p.draft)])) .written p.closed
  | .item way name =>
    let add := fun (_ : Origin) (inner : Draft.Entries) =>
      match Draft.get? name.text inner with
      | some (.tables items) => some (Draft.replace name.text (.tables (items ++ [p.draft])) inner)
      | _ => none
    Draft.descend .implied way add .written p.closed

/-- After the header of a table. It may name a table that the headers of inner
tables have implied, and takes their place. -/
def openTable? (p : Progress) (way : List Key) (name : Key) (span : Span)
    (closed : Draft.Entries) : Option Progress := do
  let entries ←
    match Draft.find? way name.text closed with
    | none => some []
    | some (.table .implied _ inner) => some inner
    | some _ => none
  let erase := fun (_ : Origin) (inner : Draft.Entries) => some (Draft.erase name.text inner)
  let closed ← Draft.descend .implied way erase .written closed
  return ⟨p.rootSpan, closed, .table way name, span, entries⟩

/-- After the header of a table in an array of tables. -/
def openItem? (p : Progress) (way : List Key) (name : Key) (span : Span)
    (closed : Draft.Entries) : Option Progress := do
  let add := fun (_ : Origin) (inner : Draft.Entries) =>
    match Draft.get? name.text inner with
    | none => some (inner ++ [(name, .tables [])])
    | some (.tables _) => some inner
    | some _ => none
  let closed ← Draft.descend .implied way add .written closed
  return ⟨p.rootSpan, closed, .item way name, span, []⟩

/-- One more pair; the table reaches up to the end of its last value. -/
def insert? (p : Progress) (way : List Key) (name : Key) (value : Value) : Option Progress := do
  let span := (value.span?.map p.span.upTo).getD p.span
  let entries ← Draft.insertPair way name value p.entries
  let rootSpan := match p.place with
    | .root => span
    | .table _ _ | .item _ _ => p.rootSpan
  return ⟨rootSpan, p.closed, p.place, span, entries⟩

end Progress

/-! ## Lines -/

namespace Reader

def ofOption {α : Type} : Option α → Reader α
  | some a => pure a
  | none => refuse

/-- The way of a header and whether it has double brackets. -/
def header : Reader (Bool × List Key × Key) := do
  let double ← startsWith ['[', '[']
  skip (if double then 2 else 1)
  let (way, name) ← key
  expect ']'
  if double then expect ']'
  return (double, way, name)

/-- One line, after the blanks at its start. -/
def line (p : Progress) : Reader Progress := do
  match ← peek? with
  | some '[' =>
    let closed ← ofOption p.close?
    let ((double, way, name), span) ← spanned header
    endOfLine
    ofOption ((if double then p.openItem? else p.openTable?) way name span closed)
  | some c =>
    if c = '#' || c = '\n' || c = '\r' then
      comment
      lineEnd
      return p
    else
      let (way, name, value) ← pair (value depthLimit)
      endOfLine
      ofOption (p.insert? way name value)
  | none => return p

/-- The lines up to the end of the text. -/
def lines : (fuel : Nat) → Progress → Reader Progress
  | 0, _ => refuse
  | fuel + 1, p => do
    blanks
    if (← peek?) = none then return p
    else
      let p ← line p
      lines fuel p

end Reader

/-- The text without the mark of its byte order. -/
def dropByteOrderMark : List Char → List Char
  | c :: rest => if c.toNat = 0xFEFF then rest else c :: rest
  | [] => []

/-- The table of a whole text. -/
def Value.ofToml? (text : String) : Option Value :=
  let text := text.toList
  match Reader.lines (text.length + 1) (.start text.length) (dropByteOrderMark text) with
  | none => none
  | some (p, _) =>
    p.close?.map fun entries => .table (some p.rootSpan) (Draft.toValues entries)

end BoardCompiler.Toml
