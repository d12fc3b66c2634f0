/-
# BoardCompiler.Proofs.Compile.Includes — the headers of a board

Header by header the list of includes grows only by what it does not have, so adding
to a list without repetitions gives the first occurrences of the longer list
(`addIncludes_eraseDups`). Over all entities that makes the includes the headers of
one entity after another, each at its first place (`includesOf_eq`).
-/
import BoardCompiler.Compile
import BoardCompiler.Proofs.FirstOccurrences

namespace BoardCompiler

set_option autoImplicit false

/-- The headers of a list added to those that are there: what is new comes behind them,
at its first place. -/
theorem addIncludes_eraseDups (headers : List String) :
    ∀ seen : List String, addIncludes seen.eraseDups headers = (seen ++ headers).eraseDups := by
  induction headers with
  | nil => simp [addIncludes]
  | cons header rest ih =>
      intro seen
      have step : addIncludes seen.eraseDups [header] = (seen ++ [header]).eraseDups := by
        simp [addIncludes, eraseDups_concat]
      have tail := ih (seen ++ [header])
      rw [← step, List.append_assoc, List.singleton_append] at tail
      exact tail

/-! ## Headers of entities -/

/-- The headers that an entity needs for its type. -/
def CompiledEntity.headers (parsers : ParserRegistry) (e : CompiledEntity) : List String :=
  (parsers.includes? e.kind).getD []

theorem includesOf_eraseDups {parsers : ParserRegistry} (entities : List CompiledEntity) :
    ∀ seen : List String,
      Board.includesOf parsers seen.eraseDups (entities.map CompiledEntity.kind) =
        (seen ++ entities.flatMap (CompiledEntity.headers parsers)).eraseDups := by
  induction entities with
  | nil => simp [Board.includesOf]
  | cons e rest ih =>
      intro seen
      rw [List.flatMap_cons, ← List.append_assoc, ← ih, ← addIncludes_eraseDups]
      rfl

/-- The headers of all entities, each where it is first needed. -/
theorem includesOf_eq (parsers : ParserRegistry) (entities : List CompiledEntity) :
    Board.includesOf parsers [] (entities.map CompiledEntity.kind) =
      (entities.flatMap (CompiledEntity.headers parsers)).eraseDups :=
  includesOf_eraseDups entities []

end BoardCompiler
