/-
# BoardCompiler.SortedTable — values under names, in the order of the names

A `SortedTable` maps names to values and lists them in increasing order of the
names. A name is there once: a later value for it replaces the earlier one.
-/

namespace BoardCompiler

set_option autoImplicit false

structure SortedTable (α : Type) where
  entries : List (String × α)

namespace SortedTable

variable {α : Type}

def empty : SortedTable α := ⟨[]⟩

def insertEntry (name : String) (value : α) : List (String × α) → List (String × α)
  | [] => [(name, value)]
  | (n, v) :: rest =>
    if name < n then (name, value) :: (n, v) :: rest
    else if name = n then (name, value) :: rest
    else (n, v) :: insertEntry name value rest

def insert (table : SortedTable α) (name : String) (value : α) : SortedTable α :=
  ⟨insertEntry name value table.entries⟩

def get? (table : SortedTable α) (name : String) : Option α :=
  (table.entries.find? fun entry => entry.1 == name).map (·.2)

def contains (table : SortedTable α) (name : String) : Bool := (table.get? name).isSome

/-- The names in increasing order. -/
def names (table : SortedTable α) : List String := table.entries.map (·.1)

def size (table : SortedTable α) : Nat := table.entries.length

def isEmpty (table : SortedTable α) : Bool := table.entries.isEmpty

end SortedTable

end BoardCompiler
