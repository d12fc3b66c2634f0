/-
# BoardCompiler.Proofs.Files.Disk — a disk place by place

`kind?` says of each place what stands there, a file with its content or a directory,
and not what a directory holds. So seen, putting a file or an empty directory where no
directory stands changes that place and no other (`kind?_insert`). What a place holds
stands in directories all the way from the root (`kind?_dropLast`).
-/
import BoardCompiler.Files.Disk
import Mathlib.Data.List.Induction

namespace BoardCompiler.Disk

set_option autoImplicit false

/-- What stands at a place, without what stands in it. -/
inductive Kind where
  | file (content : ByteArray)
  | directory

def Node.kind : Node → Kind
  | .file content => .file content
  | .directory _ => .directory

def kind? (d : Disk) (place : Location) : Option Kind := (d.node? place).map Node.kind

theorem Node.kind_eq_directory_iff {node : Node} :
    node.kind = .directory ↔ ∃ entries, node = .directory entries := by
  cases node <;> simp [Node.kind]

theorem Node.kind_eq_file_iff {node : Node} {content : ByteArray} :
    node.kind = .file content ↔ node = .file content := by
  cases node <;> simp [Node.kind]

@[simp] theorem kind?_root (d : Disk) : d.kind? [] = some .directory := rfl

theorem kind?_eq_directory_iff {d : Disk} {place : Location} :
    d.kind? place = some .directory ↔ ∃ entries, d.node? place = some (.directory entries) := by
  rw [kind?, Option.map_eq_some_iff]
  simp only [Node.kind_eq_directory_iff]
  exact ⟨fun ⟨_, stands, entries, same⟩ => ⟨entries, same ▸ stands⟩,
    fun ⟨entries, stands⟩ => ⟨_, stands, entries, rfl⟩⟩

/-! ## Steps down -/

namespace Node

/-- One name further down. -/
def child? (name : String) : Node → Option Node
  | .file _ => none
  | .directory entries => lookup name entries

theorem below?_append (front back : Location) (node : Node) :
    below? (front ++ back) node = (below? front node).bind (below? back) := by
  induction front generalizing node with
  | nil => rfl
  | cons name rest ih =>
      cases node with
      | file content => rfl
      | directory entries =>
          cases found : lookup name entries with
          | none => simp [below?, found]
          | some inner => simp [below?, found, ih]

theorem below?_singleton (name : String) (node : Node) : below? [name] node = node.child? name := by
  cases node with
  | file content => rfl
  | directory entries =>
      cases found : lookup name entries <;> simp [below?, child?, found]

end Node

theorem node?_concat (d : Disk) (place : Location) (name : String) :
    d.node? (place ++ [name]) = (d.node? place).bind (Node.child? name) := by
  rw [node?, Node.below?_append]
  congr 1
  funext node
  exact Node.below?_singleton name node

/-- What stands at a place stands in a directory. -/
theorem kind?_dropLast {d : Disk} {place : Location} {kind : Kind}
    (there : d.kind? place = some kind) : d.kind? place.dropLast = some .directory := by
  cases place using List.reverseRecOn with
  | nil => rfl
  | append_singleton front name =>
      rw [List.dropLast_concat]
      rw [kind?, node?_concat] at there
      cases around : d.node? front with
      | none => simp [around] at there
      | some node =>
          cases node with
          | file content => simp [around, Node.child?] at there
          | directory entries => exact kind?_eq_directory_iff.mpr ⟨entries, around⟩

/-- So does everything around it. -/
theorem kind?_of_prefix {d : Disk} {around place : Location} (inside : around <+: place)
    (there : d.kind? place = some .directory) : d.kind? around = some .directory := by
  obtain ⟨names, rfl⟩ := inside
  induction names using List.reverseRecOn with
  | nil => simpa using there
  | append_singleton names name ih =>
      have above := kind?_dropLast there
      rw [← List.append_assoc, List.dropLast_concat] at above
      exact ih above

/-! ## Insertion -/

namespace Node

@[simp] theorem lookup_put_self (name : String) (node : Node) (entries : Entries) :
    lookup name (put name node entries) = some node := by
  induction entries with
  | nil => simp [put, lookup]
  | cons entry rest ih =>
      by_cases same : entry.1 = name
      · simp [put, lookup, same]
      · simpa [put, lookup, same] using ih

theorem lookup_put_of_ne {name other : String} (different : other ≠ name) (node : Node)
    (entries : Entries) : lookup other (put name node entries) = lookup other entries := by
  induction entries with
  | nil => simp [put, lookup, different.symm]
  | cons entry rest ih =>
      by_cases same : entry.1 = name
      · simp [put, lookup, same, different.symm]
      · by_cases hit : entry.1 = other
        · simp [put, lookup, hit, different]
        · simpa [put, lookup, same, hit] using ih

def kindBelow? (place : Location) (node : Node) : Option Kind := (below? place node).map kind

@[simp] theorem kindBelow?_nil (node : Node) : kindBelow? [] node = some node.kind := rfl

theorem kindBelow?_cons (name : String) (rest : Location) (entries : Entries) :
    kindBelow? (name :: rest) (.directory entries) =
      (lookup name entries).bind (kindBelow? rest) := by
  cases found : lookup name entries <;> simp [kindBelow?, below?, found]

/-- Nothing stands below the node. -/
def Leaf (node : Node) : Prop := ∀ place ≠ [], kindBelow? place node = none

theorem leaf_file (content : ByteArray) : Leaf (.file content) := by
  intro place deeper
  cases place with
  | nil => exact absurd rfl deeper
  | cons name rest => rfl

/-- No directory stands at a file or below it. -/
theorem kindBelow?_file_ne_directory (content : ByteArray) (place : Location) :
    kindBelow? place (.file content) ≠ some .directory := by
  cases place with
  | nil => simp [kind]
  | cons name rest => simp [kindBelow?, below?]

theorem leaf_emptyDirectory : Leaf (.directory []) := by
  intro place deeper
  cases place with
  | nil => exact absurd rfl deeper
  | cons name rest => rfl

theorem Leaf.of_no_directory {node : Node} (plain : node.kind ≠ .directory) : node.Leaf := by
  cases node with
  | file content => exact leaf_file content
  | directory entries => exact absurd rfl plain

/-- A leaf under a name that no directory stands under. -/
theorem kindBelow?_put {node : Node} (leaf : node.Leaf) {name : String} {entries : Entries}
    (free : kindBelow? [name] (.directory entries) ≠ some .directory) (rest : Location) :
    kindBelow? (name :: rest) (.directory (put name node entries)) =
      if rest = [] then some node.kind else kindBelow? (name :: rest) (.directory entries) := by
  rw [kindBelow?_cons, kindBelow?_cons, lookup_put_self, Option.bind_some]
  split_ifs with here
  · rw [here, kindBelow?_nil]
  · rw [leaf rest here]
    rw [kindBelow?_cons] at free
    cases found : lookup name entries with
    | none => rfl
    | some old =>
        have plain : old.kind ≠ .directory := by simpa [found] using free
        exact (Leaf.of_no_directory plain rest here).symm

/-- The place may lie below any directory that is there. What stood at it is no
directory, or all that stood below it would be gone. -/
theorem kindBelow?_insertBelow {node : Node} (leaf : node.Leaf) :
    ∀ {place : Location} {entries : Entries}, place ≠ [] →
      kindBelow? place.dropLast (.directory entries) = some .directory →
      kindBelow? place (.directory entries) ≠ some .directory → ∀ other,
        kindBelow? other (.directory (insertBelow node place entries)) =
          if other = place then some node.kind else kindBelow? other (.directory entries)
  | [], _, nonroot, _, _, _ => absurd rfl nonroot
  | _ :: _, _, _, _, _, [] => rfl
  | [name], entries, _, _, free, first :: rest => by
      rw [insertBelow]
      by_cases same : first = name
      · subst same
        rw [kindBelow?_put leaf free]
        simp
      · have apart : ¬ first :: rest = [name] := fun eq => same (List.cons.inj eq).1
        rw [kindBelow?_cons, kindBelow?_cons, lookup_put_of_ne same, if_neg apart]
  | name :: next :: more, entries, _, parent, free, first :: rest => by
      rw [List.dropLast_cons_of_ne_nil (by simp), kindBelow?_cons] at parent
      rw [kindBelow?_cons] at free
      match found : lookup name entries with
      | none => simp [found] at parent
      | some (.file content) =>
          rw [found, Option.bind_some] at parent
          exact absurd parent (kindBelow?_file_ne_directory content _)
      | some (.directory inner) =>
          rw [found, Option.bind_some] at parent free
          have deeper := kindBelow?_insertBelow leaf (by simp) parent free rest
          rw [insertBelow, found]
          by_cases same : first = name
          · subst same
            simp [kindBelow?_cons, found, deeper]
          · have apart : ¬ first :: rest = name :: next :: more :=
              fun eq => same (List.cons.inj eq).1
            simp only [kindBelow?_cons, lookup_put_of_ne same, if_neg apart]

end Node

/-- What is put in the place of no directory changes nothing elsewhere. -/
theorem kind?_insert {d : Disk} {place : Location} {node : Node} (leaf : node.Leaf)
    (parent : d.kind? place.dropLast = some .directory) (free : d.kind? place ≠ some .directory)
    (other : Location) :
    (d.insert place node).kind? other =
      if other = place then some node.kind else d.kind? other := by
  have nonroot : place ≠ [] := by
    rintro rfl
    exact free d.kind?_root
  exact Node.kindBelow?_insertBelow leaf nonroot parent free other

end BoardCompiler.Disk
