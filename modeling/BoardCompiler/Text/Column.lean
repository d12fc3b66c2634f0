/-
# BoardCompiler.Text.Column — texts in columns

A column is a text followed by the spaces that bring it to a width. Widths count
characters, and a text wider than its column stays whole.
-/

namespace BoardCompiler.Text

set_option autoImplicit false

/-- The text, followed by spaces up to `width` characters. -/
def column (width : Nat) (s : String) : String :=
  s ++ String.ofList (List.replicate (width - s.length) ' ')

end BoardCompiler.Text
