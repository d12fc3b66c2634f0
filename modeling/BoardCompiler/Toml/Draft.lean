/-
# BoardCompiler.Toml.Draft — tables while a document is read

The entries of a table may stand in several places of a document. A `Draft` is
what has been read so far, with how each table came about (`Origin`), which says
what may still be added: a table that a header or a pair of braces has written is
not written again, dotted keys add only to tables that dotted keys have made, and
the header of a table may come after the headers of tables inside it.

* `descend` — work on the table at the end of a way, making the tables on it.
* `insertPair` — the entry of a key and a value.
* `Draft.toValue` — the tree that is left when all is read.
-/
import BoardCompiler.Toml.Value

namespace BoardCompiler.Toml

set_option autoImplicit false

/-- How a table came about. -/
inductive Origin where
  /-- It has a header, is the root or is being written between braces. -/
  | written
  /-- The header of a table inside it named it. -/
  | implied
  /-- A dotted key named it. -/
  | dotted
  deriving DecidableEq, Repr

inductive Draft where
  /-- A value, which takes no further entries. -/
  | closed (value : Value)
  | table (origin : Origin) (span : Option Span) (entries : List (Key × Draft))
  /-- The tables of headers in double brackets. -/
  | tables (items : List Draft)
  deriving Repr

namespace Draft

abbrev Entries := List (Key × Draft)

def get? (name : String) (entries : Entries) : Option Draft :=
  (entries.find? fun entry => entry.1.text == name).map (·.2)

/-- The entries with another draft in the place of a key's. -/
def replace (name : String) (draft : Draft) (entries : Entries) : Entries :=
  entries.map fun entry => if entry.1.text == name then (entry.1, draft) else entry

def erase (name : String) (entries : Entries) : Entries :=
  entries.filter fun entry => entry.1.text != name

/-- Work on the table at the end of a way. The way of a dotted key (`made` is
`dotted`) does not pass through a written table, except the last of an array. -/
def descend (made : Origin) :
    List Key → (Origin → Entries → Option Entries) → Origin → Entries → Option Entries
  | [], work, origin, entries => work origin entries
  | key :: way, work, _, entries =>
    match get? key.text entries with
    | none => do
      let inner ← descend made way work made []
      return entries ++ [(key, .table made none inner)]
    | some (.closed _) => none
    | some (.table origin span inner) =>
      if made = .dotted && origin = .written then none
      else do
        let inner ← descend made way work origin inner
        return replace key.text (.table origin span inner) entries
    | some (.tables items) =>
      match items.getLast? with
      | some (.table origin span inner) => do
        let inner ← descend made way work origin inner
        return replace key.text (.tables (items.dropLast ++ [.table origin span inner])) entries
      | _ => none

/-- What stands at the end of a way. -/
def find? : List Key → String → Entries → Option Draft
  | [], name, entries => get? name entries
  | key :: way, name, entries =>
    match get? key.text entries with
    | some (.table _ _ inner) => find? way name inner
    | some (.tables items) =>
      match items.getLast? with
      | some (.table _ _ inner) => find? way name inner
      | _ => none
    | _ => none

/-- The entries with one more at the end of a way; a key is not given twice. A way
of dotted keys ends in a table that dotted keys have made. -/
def insertPair (way : List Key) (key : Key) (value : Value) (entries : Entries) : Option Entries :=
  let add := fun (origin : Origin) (inner : Entries) =>
    if (get? key.text inner).isSome then none
    else if !way.isEmpty && origin ≠ .dotted then none
    else some (inner ++ [(key, .closed value)])
  descend .dotted way add .written entries

def span? : Draft → Option Span
  | closed value => value.span?
  | table _ span _ => span
  | tables _ => none

/-- From the first of some drafts to the last. -/
def spanOf (items : List Draft) : Option Span :=
  match items.head?.bind span?, items.getLast?.bind span? with
  | some first, some last => some (first.upTo last)
  | _, _ => none

mutual

def toValue : Draft → Value
  | .closed value => value
  | .table _ span entries => .table span (toValues entries)
  | .tables items => .array (spanOf items) (toItems items)

def toValues : List (Key × Draft) → List (Key × Value)
  | [] => []
  | (key, draft) :: rest => (key, draft.toValue) :: toValues rest

def toItems : List Draft → List Value
  | [] => []
  | draft :: rest => draft.toValue :: toItems rest

end

end Draft

end BoardCompiler.Toml
