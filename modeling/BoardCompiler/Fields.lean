/-
# BoardCompiler.Fields — reading a configuration field by field

`Fields` is an entity's configuration together with the names read so far. Each
read records its name, takes the value under it or a default, and checks it
(`Field`). A failing read records its name too, so reading can go on after it.
`unread` lists the keys whose name no read has recorded.
-/
import BoardCompiler.Field
import BoardCompiler.Log

namespace BoardCompiler

set_option autoImplicit false

open Yaml (Value)

structure Fields where
  entries : List (Value × Value)
  read : List String

/-- A computation that reads fields; the names it read outlive a failure. -/
abbrev FieldReader (α : Type) : Type := ExceptT FieldError (StateM Fields) α

namespace Fields

def ofEntries (entries : List (Value × Value)) : Fields := ⟨entries, []⟩

def empty : Fields := ofEntries []

/-- How a key appears in the list of unread names. -/
def keyName (key : Value) : String :=
  key.asString?.getD key.describe

/-- The keys that no read has named, in the order of the configuration. -/
def unread (fields : Fields) : List String :=
  (fields.entries.map fun entry => keyName entry.1).filter fun name => !fields.read.contains name

/-- A warning for every unread key. -/
def unreadWarnings (fields : Fields) (entity kind : String) : List Log.Entry :=
  fields.unread.map fun name =>
    ⟨.warn, kind ++ " '" ++ entity ++ "': ignoring unknown config field '" ++ name ++ "'"⟩

end Fields

namespace FieldReader

variable {α : Type}

/-- Record `key`, then check the value under it or the default. -/
def checked (key : String) (default : Value) (check : Value → Except FieldError α) :
    FieldReader α := fun fields =>
  (check ((Value.lookup key fields.entries).getD default), { fields with read := key :: fields.read })

def integer (key : String) (default : Int) (rule : IntegerRule) : FieldReader Int :=
  checked key (.integer default) fun value => Field.integer key value rule

/-- An integer that is 0 or 1. -/
def flag (key : String) (default : Int) : FieldReader Int :=
  integer key default .flag

def boolean (key : String) (default : Bool) : FieldReader Bool :=
  checked key (.bool default) fun value => Field.boolean key value

def choice (key : String) (default : String) (choices : List String) : FieldReader String :=
  checked key (.string default) fun value => Field.choice key value choices

/-- What the reader gives on the fields, and the fields after it. -/
def runOn (reader : FieldReader α) (fields : Fields) : Except FieldError α × Fields :=
  reader fields

end FieldReader

end BoardCompiler
