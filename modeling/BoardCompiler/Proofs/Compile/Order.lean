/-
# BoardCompiler.Proofs.Compile.Order — the order of a board's entities

What a sound board asks of its entities it asks of each, or of all names together, and
its result is made entity by entity. So a board whose peripherals and devices are put
in another order is sound as well (`Sound.reordered`), and its output follows the new
order: an entity comes out the same wherever it stands (`compile_reordered`). The
headers are the same as well; where each of them stands, the first entity to need it
decides.
-/
import BoardCompiler.Proofs.Compile.References
import BoardCompiler.Proofs.Compile.Sound

namespace BoardCompiler

set_option autoImplicit false

/-- `ys` and `ys'` are what `xs` and `xs'` turn into, element by element: what an element
turns into does not depend on the list, and positions that take `xs` to `xs'` take
`ys` to `ys'`. -/
structure Follows {α β : Type} (xs xs' : List α) (ys ys' : List β) : Prop where
  same : ∃ f : α → Option β, xs.map f = ys.map some ∧ xs'.map f = ys'.map some
  moved : ∀ position : Nat → Nat, (∀ i : Nat, xs'[i]? = xs[position i]?) →
    ∀ i : Nat, ys'[i]? = ys[position i]?

theorem map_eq_map_some_filterMap {α β : Type} {f : α → Option β} {xs : List α}
    (present : ∀ x ∈ xs, (f x).isSome) : xs.map f = (xs.filterMap f).map some := by
  rw [← List.forall₂_eq_eq_eq, List.forall₂_map_left_iff, List.forall₂_map_right_iff]
  exact forall₂_filterMap present

theorem follows_filterMap {α β : Type} {f : α → Option β} {xs xs' : List α}
    (present : ∀ x ∈ xs, (f x).isSome) (present' : ∀ x ∈ xs', (f x).isSome) :
    Follows xs xs' (xs.filterMap f) (xs'.filterMap f) := by
  have same := map_eq_map_some_filterMap present
  have same' := map_eq_map_some_filterMap present'
  refine ⟨⟨f, same, same'⟩, fun position moves i => ?_⟩
  apply Option.map_injective fun _ _ => Option.some.inj
  calc (xs'.filterMap f)[i]?.map some
      = xs'[i]?.map f := by rw [← List.getElem?_map, ← same', List.getElem?_map]
    _ = xs[position i]?.map f := by rw [moves]
    _ = (xs.filterMap f)[position i]?.map some := by
          rw [← List.getElem?_map, same, List.getElem?_map]

namespace Board

/-- The boards have the same peripherals and the same devices, each list in some order. -/
structure Reorders (board board' : Board) : Prop where
  peripherals : board.peripherals.Perm board'.peripherals
  devices : board.devices.Perm board'.devices

variable {board board' : Board} {mode : Mode}

theorem Reorders.symm (reorders : board.Reorders board') : board'.Reorders board :=
  ⟨reorders.peripherals.symm, reorders.devices.symm⟩

theorem Sound.reordered (sound : board.Sound mode) (reorders : board.Reorders board') :
    board'.Sound mode := by
  have names := reorders.peripherals.map Entity.name
  constructor
  · intro e member
    exact sound.peripherals e (reorders.peripherals.mem_iff.mpr member)
  · exact names.nodup_iff.mp sound.names
  · intro e member
    exact sound.devices e (reorders.devices.mem_iff.mpr member)
  · intro check e member
    obtain ⟨ref, first, declared⟩ :=
      sound.references check e (reorders.devices.mem_iff.mpr member)
    exact ⟨ref, first, names.mem_iff.mp declared⟩

theorem Reorders.perm_includes (reorders : board.Reorders board') :
    board.result.includes.Perm board'.result.includes := by
  have entities : (board.peripherals.filterMap Entity.peripheral? ++
      board.devices.filterMap Entity.device?).Perm
        (board'.peripherals.filterMap Entity.peripheral? ++
          board'.devices.filterMap Entity.device?) :=
    (reorders.peripherals.filterMap _).append (reorders.devices.filterMap _)
  exact perm_eraseDups fun header => (entities.flatMap_right _).mem_iff

/-- The order of a board's entities decides the order of the output and nothing else:
in another order the board compiles as well, every entity comes out the same, and the
headers are the same. -/
theorem compile_reordered (reorders : board.Reorders board') :
    ((∃ out, (board.compile Builtin.parsers mode).outcome = .ok out) ↔
      ∃ out', (board'.compile Builtin.parsers mode).outcome = .ok out') ∧
    ∀ out out', (board.compile Builtin.parsers mode).outcome = .ok out →
      (board'.compile Builtin.parsers mode).outcome = .ok out' →
      Follows board.peripherals board'.peripherals out.peripherals out'.peripherals ∧
        Follows board.devices board'.devices out.devices out'.devices ∧
        out.includes.Perm out'.includes := by
  constructor
  · rw [exists_compile_ok_iff, exists_compile_ok_iff]
    exact ⟨fun sound => sound.reordered reorders, fun sound => sound.reordered reorders.symm⟩
  · intro out out' compiles compiles'
    obtain ⟨sound, rfl⟩ := compile_ok_iff_sound.mp compiles
    obtain ⟨sound', rfl⟩ := compile_ok_iff_sound.mp compiles'
    exact ⟨follows_filterMap sound.peripheral?_isSome sound'.peripheral?_isSome,
      follows_filterMap sound.device?_isSome sound'.device?_isSome, reorders.perm_includes⟩

/-- The light before the button, and their peripherals likewise. -/
def lightAndButton : Board := ⟨buttonAndLight.peripherals.reverse, buttonAndLight.devices.reverse⟩

theorem lightAndButton_follows :
    buttonAndLight.Reorders lightAndButton ∧
      ∃ out out', (buttonAndLight.compile Builtin.parsers .check).outcome = .ok out ∧
        (lightAndButton.compile Builtin.parsers .check).outcome = .ok out' ∧
        Follows buttonAndLight.peripherals lightAndButton.peripherals out.peripherals
            out'.peripherals ∧
          Follows buttonAndLight.devices lightAndButton.devices out.devices out'.devices ∧
          out.includes.Perm out'.includes := by
  have reorders : buttonAndLight.Reorders lightAndButton :=
    ⟨(List.reverse_perm _).symm, (List.reverse_perm _).symm⟩
  have compiles : (buttonAndLight.compile Builtin.parsers .check).outcome = .ok _ := rfl
  have compiles' : (lightAndButton.compile Builtin.parsers .check).outcome = .ok _ := rfl
  exact ⟨reorders, _, _, compiles, compiles', (compile_reordered reorders).2 _ _ compiles compiles'⟩

end Board

end BoardCompiler
