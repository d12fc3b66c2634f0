/-
# BoardCompiler.Proofs.Files.Outward — the directories around a path

Going outward, a path loses one component after another. Its text is cut at a slash,
and what is left of it has the components that it had before (`components_path`): no
cut makes a piece the head of a path or takes the head away. So the ancestors of a path
are its front parts, the longest first (`outward_ancestors`); the root is kept to the
last, and a relative path ends in the working directory.
-/
import BoardCompiler.Proofs.Files.Directories
import BoardCompiler.Proofs.Files.Join
import Mathlib.Data.List.DropRight
import Mathlib.Data.List.Infix

namespace BoardCompiler.Path

set_option autoImplicit false

variable {p q : Path}

/-! ## Pieces -/

theorem split_of_no_slash {text : List Char} (single : '/' ∉ text) : split text = [text] := by
  induction text with
  | nil => rfl
  | cons c rest ih =>
      have first : ¬ c = '/' := fun slash => single (by simp [slash])
      have others : '/' ∉ rest := fun member => single (List.mem_cons_of_mem c member)
      simp only [split, if_neg first, ih others]

theorem no_slash_of_mem_split {text piece : List Char} (member : piece ∈ split text) :
    '/' ∉ piece := by
  induction text generalizing piece with
  | nil =>
      have empty : piece = [] := by simpa [split] using member
      simp [empty]
  | cons c rest ih =>
      by_cases slash : c = '/'
      · rw [split, if_pos slash, List.mem_cons] at member
        rcases member with rfl | later
        · exact List.not_mem_nil
        · exact ih later
      · rw [split, if_neg slash] at member
        cases pieces : split rest with
        | nil => exact absurd pieces (split_ne_nil rest)
        | cons first others =>
            simp only [pieces, List.mem_cons] at member
            rcases member with rfl | later
            · have clean : '/' ∉ first := ih (by simp [pieces])
              intro inside
              rcases List.mem_cons.mp inside with same | inside
              · exact slash same.symm
              · exact clean inside
            · exact ih (by simp [pieces, later])

/-- Pieces that are put together come apart again. -/
theorem split_unsplit {pieces : List (List Char)} (some : pieces ≠ [])
    (clean : ∀ piece ∈ pieces, '/' ∉ piece) : split (unsplit pieces) = pieces := by
  induction pieces with
  | nil => exact absurd rfl some
  | cons piece rest ih =>
      cases rest with
      | nil => exact split_of_no_slash (clean piece (by simp))
      | cons next more =>
          have first : split piece = [piece] := split_of_no_slash (clean piece (by simp))
          have others := ih (by simp) fun other member => clean other (List.mem_cons_of_mem _ member)
          rw [unsplit, split_append_slash, first, others]
          rfl

theorem unsplit_prefix {front pieces : List (List Char)} (cut : front <+: pieces) :
    unsplit front <+: unsplit pieces := by
  obtain ⟨back, rfl⟩ := cut
  induction front with
  | nil => exact List.nil_prefix
  | cons piece rest ih =>
      cases rest with
      | nil =>
          cases back with
          | nil => exact List.prefix_rfl
          | cons next more => exact List.prefix_append piece _
      | cons next more =>
          show piece ++ '/' :: unsplit (next :: more) <+:
            piece ++ '/' :: unsplit ((next :: more) ++ back)
          rw [List.prefix_append_right_inj, List.cons_prefix_cons]
          exact ⟨rfl, ih⟩

/-! ## Components -/

/-- Text whose first piece is no head of a path is read as pieces alone. -/
theorem partsOf_of_split {text piece : List Char} {rest : List (List Char)}
    (pieces : split text = piece :: rest) (filled : piece ≠ []) (dot : piece ≠ ['.']) :
    partsOf text = ⟨.none, piece :: rest⟩ := by
  fun_cases partsOf text with
  | case1 after =>
      have first : [] = piece := by simpa [split] using (List.cons.inj pieces).1
      exact absurd first.symm filled
  | case2 => exact absurd (List.cons.inj pieces).1.symm dot
  | case3 after => exact absurd (List.cons.inj pieces).1.symm dot
  | case4 => rw [pieces]

/-- The first piece of a text that is read as pieces alone. -/
theorem first_piece {c : Char} {rest : List Char} (root : ¬ c = '/')
    (here : ¬ c :: rest = ['.']) (below : ∀ after, ¬ c :: rest = '.' :: '/' :: after) :
    ∃ piece others, split (c :: rest) = piece :: others ∧ piece ≠ [] ∧ piece ≠ ['.'] := by
  cases pieces : split rest with
  | nil => exact absurd pieces (split_ne_nil rest)
  | cons piece others =>
      refine ⟨c :: piece, others, by simp only [split, if_neg root, pieces], by simp, ?_⟩
      intro dot
      obtain ⟨rfl, rfl⟩ : c = '.' ∧ piece = [] := by simpa using dot
      cases rest with
      | nil => exact here rfl
      | cons next more =>
          have solid : ¬ next = '/' := fun slash => below more (by rw [slash])
          cases deeper : split more with
          | nil => exact split_ne_nil more deeper
          | cons inner outer => simp [split, solid, deeper] at pieces

/-- The path that is left of a text cut between two of its pieces. -/
theorem components_path {text : List Char} {front : List (List Char)}
    (cut : front <+: (partsOf text).pieces) :
    (Parts.path ⟨(partsOf text).head, front⟩).components =
      (partsOf text).head.components ++ bodyComponents front := by
  have again : ∀ whole, front <+: split whole → front ≠ [] → split (unsplit front) = front :=
    fun whole inside some => split_unsplit some fun piece member =>
      no_slash_of_mem_split (inside.subset member)
  rw [components, parts, Parts.path, String.toList_ofList]
  revert cut
  fun_cases partsOf text with
  | case1 after =>
      intro cut
      cases front with
      | nil => rfl
      | cons piece rest =>
          show [Component.root] ++ bodyComponents (split (unsplit (piece :: rest))) = _
          rw [again after cut (by simp)]
          rfl
  | case2 =>
      intro cut
      rw [List.prefix_nil.mp cut]
      rfl
  | case3 after =>
      intro cut
      rcases List.prefix_cons_iff.mp cut with rfl | ⟨back, rfl, inside⟩
      · rfl
      · cases back with
        | nil => rfl
        | cons piece rest =>
            have whole : split (unsplit (piece :: rest)) = piece :: rest :=
              split_unsplit (by simp) fun other member =>
                no_slash_of_mem_split (inside.subset member)
            show [Component.here] ++ bodyComponents ([] :: split (unsplit (piece :: rest))) = _
            rw [whole]
            rfl
  | case4 _ root here below =>
      intro cut
      cases front with
      | nil => rfl
      | cons piece rest =>
          cases text with
          | nil =>
              have only : piece :: rest = [[]] := by
                rcases List.prefix_cons_iff.mp cut with none | ⟨back, same, inside⟩
                · cases none
                · rw [same, List.prefix_nil.mp inside]
              rw [only]
              rfl
          | cons c more =>
              have slash : ¬ c = '/' := fun same => root more (by rw [same])
              obtain ⟨first, others, pieces, filled, dot⟩ := first_piece slash here below
              have whole := again (c :: more) cut (by simp)
              obtain ⟨back, together⟩ := cut
              have same : piece = first := by
                rw [show split (c :: more) = first :: others from pieces] at together
                exact (List.cons.inj together).1
              rw [same] at whole ⊢
              show (partsOf (unsplit (first :: rest))).head.components ++
                bodyComponents (partsOf (unsplit (first :: rest))).pieces = _
              rw [partsOf_of_split whole filled dot]

/-! ## One component less -/

theorem bodyComponents_append (front back : List (List Char)) :
    bodyComponents (front ++ back) = bodyComponents front ++ bodyComponents back := by
  simp [bodyComponents]

theorem root_not_mem_bodyComponents (pieces : List (List Char)) :
    Component.root ∉ bodyComponents pieces := by
  intro member
  obtain ⟨piece, -, root⟩ := List.mem_map.mp member
  unfold componentOf at root
  split_ifs at root

/-- The pieces at the end that are left out say nothing. -/
theorem bodyComponents_trimEnd (pieces : List (List Char)) :
    bodyComponents (trimEnd pieces) = bodyComponents pieces := by
  induction pieces using List.reverseRecOn with
  | nil => rfl
  | append_singleton front last ih =>
      by_cases blank : isTrivial last = true
      · have trimmed : trimEnd (front ++ [last]) = trimEnd front := by
          simp [trimEnd, blank]
        rw [trimmed, ih, bodyComponents_append]
        simp [bodyComponents, blank]
      · have trimmed : trimEnd (front ++ [last]) = front ++ [last] := by
          simp [trimEnd, blank]
        rw [trimmed]

theorem bodyComponents_eq_nil_iff {pieces : List (List Char)} :
    bodyComponents pieces = [] ↔ trimEnd pieces = [] := by
  rw [bodyComponents, List.map_eq_nil_iff, List.filter_eq_nil_iff]
  show _ ↔ pieces.rdropWhile isTrivial = []
  rw [List.rdropWhile_eq_nil_iff]
  simp

theorem bodyComponents_dropLast {pieces : List (List Char)} (some : trimEnd pieces ≠ []) :
    bodyComponents (trimEnd pieces).dropLast = (bodyComponents pieces).dropLast := by
  have last : ¬ isTrivial ((trimEnd pieces).getLast some) = true :=
    List.rdropWhile_last_not isTrivial pieces some
  have whole := bodyComponents_trimEnd pieces
  rw [← List.dropLast_append_getLast some, bodyComponents_append] at whole
  have single : bodyComponents [(trimEnd pieces).getLast some] =
      [componentOf ((trimEnd pieces).getLast some)] := by
    simp [bodyComponents, last]
  rw [← whole, single, List.dropLast_concat]

/-- The parent is a front part of the text, and has all components but the last. -/
theorem components_of_parent? (parent : p.parent? = some q) :
    q.components = p.components.dropLast ∧ q.text.toList <+: p.text.toList := by
  have whole : p.parts.head.text ++ unsplit p.parts.pieces = p.text.toList :=
    text_partsOf p.text.toList
  unfold parent? at parent
  split_ifs at parent with blank here
  · cases parent
    have none : bodyComponents p.parts.pieces = [] := bodyComponents_eq_nil_iff.mpr blank
    refine ⟨?_, List.nil_prefix⟩
    have alone : p.components = [.here] := by
      rw [components, none, here]
      rfl
    rw [alone]
    rfl
  · cases parent
    have cut : trimEnd (trimEnd p.parts.pieces).dropLast <+: p.parts.pieces :=
      ((trimEnd_isPrefix _).trans (List.dropLast_prefix _)).trans (trimEnd_isPrefix _)
    have some : bodyComponents p.parts.pieces ≠ [] := fun none =>
      blank (bodyComponents_eq_nil_iff.mp none)
    constructor
    · calc (Parts.path ⟨p.parts.head, trimEnd (trimEnd p.parts.pieces).dropLast⟩).components
          = p.parts.head.components ++
              bodyComponents (trimEnd (trimEnd p.parts.pieces).dropLast) := components_path cut
        _ = p.parts.head.components ++ (bodyComponents p.parts.pieces).dropLast := by
              rw [bodyComponents_trimEnd, bodyComponents_dropLast blank]
        _ = p.components.dropLast := by
              rw [components, List.dropLast_append_of_ne_nil some]
    · rw [Parts.path, String.toList_ofList, ← whole, List.prefix_append_right_inj]
      exact unsplit_prefix cut

/-- Where going outward ends: at the root, or in the working directory. -/
theorem parent?_eq_none_iff :
    p.parent? = none ↔ p.components = [] ∨ p.components = [.root] := by
  unfold parent? components
  split_ifs with blank here
  · simp [here, Head.components]
  · rw [bodyComponents_eq_nil_iff.mpr blank]
    cases head : p.parts.head with
    | none => simp [Head.components]
    | root => simp [Head.components]
    | here => exact absurd head here
  · have some : bodyComponents p.parts.pieces ≠ [] := fun none =>
      blank (bodyComponents_eq_nil_iff.mp none)
    simp only [false_iff, not_or]
    constructor
    · intro none
      exact some (List.append_eq_nil_iff.mp none).2
    · intro root
      cases head : p.parts.head with
      | root => simp [head, Head.components, some] at root
      | here => simp [head, Head.components] at root
      | none =>
          have only : bodyComponents p.parts.pieces = [.root] := by
            rw [head] at root
            exact root
          exact root_not_mem_bodyComponents p.parts.pieces (by simp [only])

/-! ## All the way -/

/-- The front parts of a path's components, the longest first. The root is part of all
of them. -/
def fronts : List Component → List (List Component)
  | .root :: names => (names.inits.map (.root :: ·)).reverse
  | names => names.inits.reverse

theorem fronts_of_relative {names : List Component} (relative : names.head? ≠ some .root) :
    fronts names = names.inits.reverse := by
  fun_cases fronts names with
  | case1 rest => exact absurd rfl relative
  | case2 => rfl

theorem fronts_of_end {names : List Component} (ends : names = [] ∨ names = [.root]) :
    fronts names = [names] := by
  rcases ends with rfl | rfl <;> rfl

theorem inits_concat (names : List Component) (last : Component) :
    (names ++ [last]).inits = names.inits ++ [names ++ [last]] := by
  simp [List.inits_append]

theorem fronts_of_more {names : List Component} (more : ¬ (names = [] ∨ names = [.root])) :
    fronts names = names :: fronts names.dropLast := by
  cases names using List.reverseRecOn with
  | nil => exact absurd (.inl rfl) more
  | append_singleton front last =>
      rw [List.dropLast_concat]
      cases front with
      | nil =>
          have relative : ([last] : List Component).head? ≠ some .root := by
            intro root
            exact more (.inr (congrArg (· :: []) (Option.some.inj root)))
          show fronts [last] = [last] :: fronts []
          rw [fronts_of_relative relative]
          rfl
      | cons first rest =>
          by_cases root : first = .root
          · subst root
            show ((rest ++ [last]).inits.map (Component.root :: ·)).reverse = _
            rw [inits_concat, List.map_append, List.reverse_append]
            rfl
          · have absent : ∀ others : List Component, (first :: others).head? ≠ some .root :=
              fun _ same => root (Option.some.inj same)
            have whole : (first :: rest ++ [last]).head? ≠ some .root := absent (rest ++ [last])
            rw [fronts_of_relative whole, fronts_of_relative (absent rest), inits_concat,
              List.reverse_append]
            rfl

/-- The paths are those around `p`, outward from `p` itself: front parts of its text, one
for each front part of its components. -/
structure Outward (p : Path) (paths : List Path) : Prop where
  self : paths.head? = some p
  components : paths.map Path.components = fronts p.components
  text : ∀ q ∈ paths, q.text.toList <+: p.text.toList

theorem ancestors_of_none (outermost : p.parent? = none) : p.ancestors = [p] := by
  rw [ancestors]
  split
  · rfl
  · next found => cases found.symm.trans outermost

theorem outward_ancestors (p : Path) : Outward p p.ancestors := by
  cases parent : p.parent? with
  | none =>
      rw [ancestors_of_none parent]
      refine ⟨rfl, ?_, ?_⟩
      · rw [fronts_of_end (parent?_eq_none_iff.mp parent)]
        rfl
      · intro q member
        rw [List.mem_singleton.mp member]
  | some around =>
      have more : ¬ (p.components = [] ∨ p.components = [.root]) := fun ends =>
        nomatch parent.symm.trans (parent?_eq_none_iff.mpr ends)
      obtain ⟨components, text⟩ := components_of_parent? parent
      have further := outward_ancestors around
      rw [ancestors_of_parent? parent]
      refine ⟨rfl, ?_, ?_⟩
      · rw [List.map_cons, further.components, components, fronts_of_more more]
      · intro q member
        rcases List.mem_cons.mp member with rfl | outer
        · exact List.prefix_rfl
        · exact (further.text q outer).trans text
termination_by p.text.length
decreasing_by exact length_parent?_lt parent

end BoardCompiler.Path
