/-
# BoardCompiler.Toml.Value — TOML documents as trees

A `Value` knows the stretch of text that it was written in, as does every key. A
table lists its entries in the order of the text. Tables that only dotted keys or
the headers of other tables bring about are written nowhere, so they have no
stretch of their own.
-/
import BoardCompiler.Binary64.Basic

namespace BoardCompiler.Toml

set_option autoImplicit false

/-- A stretch of a text, by the numbers of characters left where it starts and
where it stops. -/
structure Span where
  start : Nat
  stop : Nat
  deriving DecidableEq, Repr

/-- From the start of one stretch to the stop of another. -/
def Span.upTo (a b : Span) : Span := ⟨a.start, b.stop⟩

structure Key where
  text : String
  span : Span
  deriving Repr

inductive Value where
  | string (span : Span) (text : String)
  | integer (span : Span) (value : Int)
  | float (span : Span) (value : Binary64)
  | boolean (span : Span) (value : Bool)
  /-- A date, a time of day or both, as it is written. -/
  | dateTime (span : Span) (text : String)
  | array (span : Option Span) (items : List Value)
  | table (span : Option Span) (entries : List (Key × Value))
  deriving Repr

namespace Value

def span? : Value → Option Span
  | string span _ | integer span _ | float span _ | boolean span _ | dateTime span _ => some span
  | array span _ | table span _ => span

end Value

end BoardCompiler.Toml
