/-
# BoardCompiler.Path — file paths as texts

A path is its text. Slashes part it into pieces; empty pieces and the piece `.`
say nothing, except that a leading `/` is the root and a leading `.` is kept as a
component. `components` is a path without the pieces that say nothing: `join`,
`parent?` and `stripped` look at components and otherwise leave the text alone.

* `join` — a path below another; an absolute path stands for itself.
* `parent?`, `ancestors` — the path without its last component, and so on outward.
* `stripped` — what follows the components of a base.
-/

namespace BoardCompiler

set_option autoImplicit false

structure Path where
  text : String
  deriving DecidableEq, Repr

namespace Path

inductive Component where
  | root
  /-- The directory itself, at the start of a relative path. -/
  | here
  /-- The directory above. -/
  | up
  | name (text : List Char)
  deriving DecidableEq, Repr

/-- The pieces between slashes. -/
def split : List Char → List (List Char)
  | [] => [[]]
  | c :: rest =>
    if c = '/' then [] :: split rest
    else
      match split rest with
      | [] => [[c]]
      | piece :: pieces => (c :: piece) :: pieces

/-- Pieces with slashes between them. -/
def unsplit : List (List Char) → List Char
  | [] => []
  | [piece] => piece
  | piece :: next :: rest => piece ++ '/' :: unsplit (next :: rest)

/-- Pieces that say nothing. -/
def isTrivial (piece : List Char) : Bool := piece = [] || piece = ['.']

/-- Pieces without the trivial ones at the end. -/
def trimEnd (pieces : List (List Char)) : List (List Char) :=
  (pieces.reverse.dropWhile isTrivial).reverse

/-- Pieces without the trivial ones at the start. -/
def trimStart (pieces : List (List Char)) : List (List Char) :=
  pieces.dropWhile isTrivial

/-- How a path starts: its component in front of the pieces, if it has one. -/
inductive Head where
  | none
  | root
  | here
  deriving DecidableEq, Repr

namespace Head

def text : Head → List Char
  | none => []
  | root => ['/']
  | here => ['.']

def components : Head → List Component
  | none => []
  | root => [.root]
  | here => [.here]

end Head

/-- A path as its head and the pieces after it. -/
structure Parts where
  head : Head
  pieces : List (List Char)

def partsOf : List Char → Parts
  | '/' :: rest => ⟨.root, split rest⟩
  | ['.'] => ⟨.here, []⟩
  | '.' :: '/' :: rest => ⟨.here, [] :: split rest⟩
  | text => ⟨.none, split text⟩

def parts (p : Path) : Parts := partsOf p.text.toList

def Parts.path (x : Parts) : Path := ⟨String.ofList (x.head.text ++ unsplit x.pieces)⟩

def componentOf (piece : List Char) : Component :=
  if piece = ['.', '.'] then .up else .name piece

/-- The components of the pieces that say something. -/
def bodyComponents (pieces : List (List Char)) : List Component :=
  (pieces.filter fun piece => !isTrivial piece).map componentOf

def components (p : Path) : List Component :=
  p.parts.head.components ++ bodyComponents p.parts.pieces

def isAbsolute (p : Path) : Bool := p.text.toList.head? = some '/'

/-- The path of `p` seen from the directory `base`. -/
def join (base : Path) (p : Path) : Path :=
  if p.isAbsolute then p
  else
    match base.text.toList.getLast? with
    | none => p
    | some '/' => ⟨base.text ++ p.text⟩
    | some _ => ⟨base.text ++ "/" ++ p.text⟩

/-- The path without its last component; the root and the empty path have none. -/
def parent? (p : Path) : Option Path :=
  if trimEnd p.parts.pieces = [] then
    if p.parts.head = .here then some ⟨""⟩ else none
  else some (Parts.path ⟨p.parts.head, trimEnd (trimEnd p.parts.pieces).dropLast⟩)

/-- Drop `count` pieces that say something, and the trivial ones around them. -/
def dropPieces : Nat → List (List Char) → List (List Char)
  | 0, pieces => trimStart pieces
  | count + 1, pieces => dropPieces count (trimStart pieces).tail

/-- What follows the components of `base`, if the path starts with them. -/
def after? (p base : Path) : Option Path :=
  if base.components.isPrefixOf p.components then
    let x := p.parts
    if base.components.isEmpty then some (Parts.path ⟨x.head, trimEnd x.pieces⟩)
    else
      let count := base.components.length - x.head.components.length
      some (Parts.path ⟨.none, trimEnd (dropPieces count x.pieces)⟩)
  else none

/-- The path as seen from `base`, or itself where it lies elsewhere. -/
def stripped (p base : Path) : Path := (p.after? base).getD p

/-! ## Outward -/

theorem split_ne_nil (text : List Char) : split text ≠ [] := by
  fun_cases split text <;> simp_all

theorem unsplit_split (text : List Char) : unsplit (split text) = text := by
  induction text with
  | nil => rfl
  | cons c rest ih =>
    have hne := split_ne_nil rest
    by_cases h : c = '/'
    · cases hs : split rest <;> simp_all [split, unsplit]
    · cases hs : split rest with
      | nil => exact absurd hs hne
      | cons piece pieces => cases pieces <;> simp_all [split, unsplit]

theorem text_partsOf (text : List Char) :
    (partsOf text).head.text ++ unsplit (partsOf text).pieces = text := by
  fun_cases partsOf text
  · simp [Head.text, unsplit_split]
  · rfl
  · rename_i rest
    have h := unsplit_split rest
    have hne := split_ne_nil rest
    cases hs : split rest <;> simp_all [Head.text, unsplit]
  · simp [Head.text, unsplit_split]

theorem length_unsplit_le (xs ys : List (List Char)) :
    (unsplit xs).length ≤ (unsplit (xs ++ ys)).length := by
  induction xs with
  | nil => simp [unsplit]
  | cons x xs ih =>
    cases xs with
    | nil => cases ys <;> simp [unsplit]
    | cons y rest => simpa [unsplit] using ih

theorem length_unsplit_lt (xs : List (List Char)) {last : List Char} (h : last ≠ []) :
    (unsplit xs).length < (unsplit (xs ++ [last])).length := by
  induction xs with
  | nil => simpa [unsplit, List.length_pos_iff] using h
  | cons x xs ih =>
    cases xs with
    | nil => simp [unsplit]
    | cons y rest => simpa [unsplit] using ih

theorem trimEnd_isPrefix (pieces : List (List Char)) : trimEnd pieces <+: pieces := by
  have h := List.dropWhile_suffix isTrivial (l := pieces.reverse)
  simpa [trimEnd] using List.reverse_prefix.mpr h

/-- A component less is a shorter path. -/
theorem length_unsplit_trimEnd_dropLast (pieces : List (List Char)) (h : trimEnd pieces ≠ []) :
    (unsplit (trimEnd (trimEnd pieces).dropLast)).length < (unsplit pieces).length := by
  have hlast : (trimEnd pieces).getLast h ≠ [] := by
    intro hnil
    have hd : pieces.reverse.dropWhile isTrivial ≠ [] := by simpa [trimEnd] using h
    have hhead := List.head_dropWhile_not isTrivial hd
    simp only [trimEnd, List.getLast_reverse] at hnil
    simp [hnil, isTrivial] at hhead
  obtain ⟨rest, hrest⟩ := trimEnd_isPrefix pieces
  obtain ⟨more, hmore⟩ := trimEnd_isPrefix (trimEnd pieces).dropLast
  calc (unsplit (trimEnd (trimEnd pieces).dropLast)).length
      ≤ (unsplit (trimEnd pieces).dropLast).length := by
        conv => rhs; rw [← hmore]
        exact length_unsplit_le _ _
    _ < (unsplit ((trimEnd pieces).dropLast ++ [(trimEnd pieces).getLast h])).length :=
        length_unsplit_lt _ hlast
    _ = (unsplit (trimEnd pieces)).length := by rw [List.dropLast_concat_getLast]
    _ ≤ (unsplit pieces).length := by
        conv => rhs; rw [← hrest]
        exact length_unsplit_le _ _

theorem length_parent?_lt {p q : Path} (h : p.parent? = some q) :
    q.text.length < p.text.length := by
  have htext : p.parts.head.text.length + (unsplit p.parts.pieces).length = p.text.length := by
    have := congrArg List.length (text_partsOf p.text.toList)
    simpa only [parts, List.length_append, String.length_toList] using this
  unfold parent? at h
  split at h
  · split at h
    · rename_i hhead
      simp only [Option.some.injEq] at h
      subst h
      simp only [hhead, Head.text, List.length_singleton] at htext
      simp only [String.length_empty]
      omega
    · simp at h
  · rename_i hne
    have hlt := length_unsplit_trimEnd_dropLast p.parts.pieces hne
    simp only [Option.some.injEq] at h
    subst h
    simp only [Parts.path, String.length_ofList, List.length_append]
    omega

/-- The path itself, then its parent, and so on outward. -/
def ancestors (p : Path) : List Path :=
  p :: match _h : p.parent? with
    | none => []
    | some q => ancestors q
termination_by p.text.length
decreasing_by exact length_parent?_lt _h

end Path

end BoardCompiler
