/-
# BoardCompiler.Toml.Refusal — why a document is not what was asked for

A `Refusal` is a message and the stretch of text that it is about. `report` shows
it with the line: its number and column, the line itself, and marks under the
stretch.
-/
import BoardCompiler.Found
import BoardCompiler.Toml.Value

namespace BoardCompiler.Toml

set_option autoImplicit false

structure Refusal where
  message : String
  span : Option Span

namespace Value

/-- What a message calls a value. Dates and tables are maps. -/
def found : Value → Found
  | string _ s => .string s
  | integer _ n => .integer n
  | float _ x => .float x
  | boolean _ b => .bool b
  | array _ _ => .sequence
  | dateTime _ _ | table _ _ => .map

/-- A value of the wrong kind. -/
def wrong (v : Value) (expected : String) : Refusal :=
  ⟨v.found.instead expected, v.span?⟩

end Value

namespace Refusal

/-- The same refusal, about `span` if it is not yet about another stretch. -/
def within (span : Option Span) (r : Refusal) : Refusal :=
  ⟨r.message, r.span.or span⟩

/-- A line of a text by its number. -/
def lineAt (text : List Char) : Nat → List Char
  | 0 => text.takeWhile (· ≠ '\n')
  | number + 1 => lineAt (text.dropWhile (· ≠ '\n')).tail number

/-- How many bytes characters take. -/
def byteSize (text : List Char) : Nat := (String.ofList text).utf8ByteSize

/-- The message under the line that it is about. -/
def report (r : Refusal) (text : String) : String :=
  let text := text.toList
  let body := r.message ++ "\n"
  match r.span with
  | none => body
  | some span =>
    let before := text.take (text.length - span.start)
    let number := before.count '\n'
    let column := (before.reverse.takeWhile (· ≠ '\n')).length
    let line := lineAt text number
    let size := byteSize ((text.drop before.length).take (span.start - span.stop))
    let marks := max 1 (min size (byteSize line - column))
    let label := toString (number + 1)
    let gutter := String.ofList (List.replicate (label.length + 1) ' ') ++ "|"
    "TOML parse error at line " ++ label ++ ", column " ++ toString (column + 1) ++ "\n" ++
      gutter ++ "\n" ++
      label ++ " | " ++ String.ofList line ++ "\n" ++
      gutter ++ String.ofList (List.replicate (column + 1) ' ' ++ List.replicate marks '^') ++ "\n" ++
      body

end Refusal

end BoardCompiler.Toml
