/-
# BoardCompiler.Proofs.Files.Join — paths below a directory's path

A relative path joined to another is followed after it (`followed_join`). As long as no
piece goes up, following a path only goes deeper, so a path that ends below a directory
has come through it: if the directory of a file is there already, then so is what the
directory's own path leads to (`leadsTo_of_join`).
-/
import BoardCompiler.Proofs.Files.Paths

namespace BoardCompiler

set_option autoImplicit false

namespace Path

theorem split_append_slash (front back : List Char) :
    split (front ++ '/' :: back) = split front ++ split back := by
  induction front with
  | nil => simp [split]
  | cons c rest ih =>
      by_cases slash : c = '/'
      · simp [split, slash, ih]
      · cases pieces : split rest with
        | nil => exact absurd pieces (split_ne_nil rest)
        | cons piece pieces' => simp [split, slash, ih, pieces]

/-- A path below another is the text of both, with one slash between them. -/
theorem text_join {base p : Path} (nonempty : base.text ≠ "") (relative : p.isAbsolute = false) :
    ∃ front, (base.join p).text.toList = front ++ '/' :: p.text.toList ∧
      (base.text.toList = front ∨ base.text.toList = front ++ ['/']) := by
  have chars : base.text.toList ≠ [] := by simpa using nonempty
  rw [join, relative, if_neg Bool.false_ne_true]
  rw [List.getLast?_eq_some_getLast chars]
  split
  · next none => cases none
  · next slash =>
    have last : base.text.toList.getLast chars = '/' := Option.some.inj slash
    have whole : base.text.toList = base.text.toList.dropLast ++ ['/'] := by
      rw [← last, List.dropLast_concat_getLast]
    refine ⟨base.text.toList.dropLast, ?_, .inr whole⟩
    rw [String.toList_append]
    nth_rewrite 1 [whole]
    simp
  · exact ⟨base.text.toList, by simp, .inl rfl⟩

theorem isAbsolute_join {base p : Path} (nonempty : base.text ≠ "")
    (relative : p.isAbsolute = false) : (base.join p).isAbsolute = base.isAbsolute := by
  obtain ⟨front, text, same⟩ := text_join nonempty relative
  have chars : base.text.toList ≠ [] := by simpa using nonempty
  rw [isAbsolute, isAbsolute, text]
  rcases same with same | same
  · rw [same] at chars ⊢
    cases front with
    | nil => exact absurd rfl chars
    | cons c front => rfl
  · rw [same]
    cases front <;> rfl

theorem utf8ByteSize_le_join (base p : Path) (relative : p.isAbsolute = false) :
    base.text.utf8ByteSize ≤ (base.join p).text.utf8ByteSize := by
  rw [join, relative, if_neg Bool.false_ne_true]
  split
  · next empty =>
    have none : base.text = "" := by simpa using empty
    simp [none]
  · simp
  · simp only [String.utf8ByteSize_append]
    omega

end Path

namespace Disk

variable {d d' : Disk} {base p : Path}

theorem pieces_join (nonempty : base.text ≠ "") (relative : p.isAbsolute = false) :
    pieces (base.join p) = pieces base ++ pieces p := by
  obtain ⟨front, text, same⟩ := Path.text_join nonempty relative
  rcases same with same | same
  · simp [pieces, text, same, Path.split_append_slash]
  · simp [pieces, text, same, Path.split_append_slash, Path.split]

theorem followed_join (d : Disk) (nonempty : base.text ≠ "") (relative : p.isAbsolute = false) :
    d.followed (base.join p) = d.followed base ++ pieces p := by
  rw [followed, followed, Path.isAbsolute_join nonempty relative, pieces_join nonempty relative,
    List.append_assoc]

theorem Followable.of_join (nonempty : base.text ≠ "") (relative : p.isAbsolute = false)
    (followable : Followable (base.join p)) : Followable base := by
  obtain ⟨-, noNul, short⟩ := followable
  obtain ⟨front, text, same⟩ := Path.text_join nonempty relative
  refine ⟨by simpa using nonempty, ?_,
    Nat.le_trans (Path.utf8ByteSize_le_join base p relative) short⟩
  rw [text, List.any_append, Bool.or_eq_false_iff] at noNul
  rcases same with same | same
  · rw [same]
    exact noNul.1
  · rw [same, List.any_append, noNul.1]
    rfl

/-! ## Only deeper -/

theorem step?_deeper {place place' : Location} {piece : String} (down : piece ≠ "..")
    (stepped : d.step? place piece = .ok place') : place <+: place' := by
  rw [step?, step?_ok stepped] at stepped
  split_ifs at stepped with here
  · cases stepped
    exact List.prefix_rfl
  · cases stepped
    exact List.prefix_append place [piece]

theorem walk_deeper {pieces : List String} {place place' : Location} (down : ".." ∉ pieces)
    (walked : pieces.foldlM d.step? place = .ok place') : place <+: place' := by
  induction pieces generalizing place with
  | nil =>
      cases walked
      exact List.prefix_rfl
  | cons piece rest ih =>
      obtain ⟨next, stepped, others⟩ := walk_cons.mp walked
      have first : place <+: next := step?_deeper (fun up => down (by simp [up])) stepped
      exact first.trans (ih (fun member => down (List.mem_cons_of_mem piece member)) others)

/-- A walk that only goes deeper can be made wherever its end is a directory. -/
theorem walk_back {pieces : List String} {place place' : Location} (down : ".." ∉ pieces)
    (walked : pieces.foldlM d'.step? place = .ok place')
    (there : d.kind? place' = some .directory) : pieces.foldlM d.step? place = .ok place' := by
  induction pieces generalizing place with
  | nil => exact walked
  | cons piece rest ih =>
      have inside := walk_deeper down walked
      obtain ⟨next, stepped, others⟩ := walk_cons.mp walked
      have stands : d.kind? place = some .directory := kind?_of_prefix inside there
      have again := step?_of_directory piece (step?_ok stepped) stands
      have downRest : ".." ∉ rest := fun member => down (List.mem_cons_of_mem piece member)
      exact walk_cons.mpr ⟨next, again.trans stepped, ih downRest others⟩

/-- What a path below another leads to, if no piece goes up, lies in what the other one
led to before. -/
theorem leadsTo_of_join {name : String} {place : Location} {kind : Kind}
    (nonempty : base.text ≠ "") (relative : p.isAbsolute = false) (single : pieces p = [name])
    (plain : name ≠ "." ∧ name ≠ "..") (down : ".." ∉ d.followed base)
    (working : d'.working = d.working) (leads : d'.leadsTo (base.join p) = .ok place)
    (there : d.kind? place = some kind) :
    d.leadsTo base = .ok place.dropLast ∧ d.kind? place.dropLast = some .directory := by
  obtain ⟨followable, walked⟩ := leadsTo_ok_iff.mp leads
  have same : d'.followed base = d.followed base := by rw [followed, followed, working]
  rw [followed_join d' nonempty relative, same, single] at walked
  obtain ⟨around, reached, last⟩ := walk_append.mp walked
  obtain ⟨-, deeper⟩ := of_walk_name plain last
  have stands := kind?_dropLast there
  rw [deeper, List.dropLast_concat] at stands ⊢
  have back := walk_back down reached stands
  exact ⟨leadsTo_ok_iff.mpr ⟨followable.of_join nonempty relative, back⟩, stands⟩

end Disk

end BoardCompiler
