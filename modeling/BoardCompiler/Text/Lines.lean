/-
# BoardCompiler.Text.Lines — texts line by line
-/

namespace BoardCompiler.Text

set_option autoImplicit false

/-- Each line, ended by a newline. -/
def unlines (lines : List String) : String :=
  lines.foldr (fun line rest => line ++ "\n" ++ rest) ""

@[simp] theorem unlines_nil : unlines [] = "" := rfl

@[simp] theorem unlines_cons (line : String) (lines : List String) :
    unlines (line :: lines) = line ++ "\n" ++ unlines lines := rfl

end BoardCompiler.Text
