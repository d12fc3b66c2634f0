/-
# BoardCompiler.Proofs.Files.Paths — where paths lead

Following a path looks at what stands at the places on the way and asks of each that it
is a directory (`step?`), so the place that a path leads to (`leadsTo`) depends on
directories alone: where none is lost, every path leads on to where it led
(`Keeps.leadsTo`). The operations of a disk are then about places (`write_ok_iff`,
`makeDirectory_ok_iff`), and what they put there leads nowhere else
(`kind?_of_write`, `kind?_of_makeDirectory`).
-/
import BoardCompiler.Proofs.Files.Disk
import Mathlib.Tactic.SplitIfs

namespace BoardCompiler.Disk

set_option autoImplicit false

variable {d d' : Disk} {path : Path}

/-- The place that a path leads to; nothing need stand there. -/
def leadsTo (d : Disk) (path : Path) : Except FileError Location := (d.locate path).map Spot.place

/-- The pieces that a path is followed by from the root. -/
def followed (d : Disk) (path : Path) : List String :=
  (if path.isAbsolute then [] else d.working) ++ pieces path

/-- One piece further from a place. -/
def step? (d : Disk) (place : Location) (piece : String) : Except FileError Location :=
  match d.kind? place with
  | none => .error .notFound
  | some (.file _) => .error .notDirectory
  | some .directory =>
    if piece = "." then .ok place
    else if piece = ".." then .ok place.dropLast
    else if nameLimit < piece.utf8ByteSize then .error .nameTooLong
    else .ok (place ++ [piece])

/-! ## Spots -/

/-- The directories around are those that stand on the disk. -/
def Trail (d : Disk) : List String → List Entries → Prop
  | [], [] => True
  | _ :: names, entries :: around =>
    d.node? names.reverse = some (.directory entries) ∧ d.Trail names around
  | _, _ => False

/-- The spot is one of the disk. -/
structure Spot.On (d : Disk) (s : Spot) : Prop where
  node : s.node = d.node? s.place
  around : d.Trail s.names s.around

theorem Spot.on_root (d : Disk) : (Spot.root d).On d := ⟨rfl, trivial⟩

/-- A step from a spot of the disk is a step from its place. -/
theorem Spot.On.step {s : Spot} (on : s.On d) (piece : String) :
    (s.step piece).map Spot.place = d.step? s.place piece ∧
      ∀ s', s.step piece = .ok s' → s'.On d := by
  obtain ⟨names, around, node⟩ := s
  obtain ⟨stands, trail⟩ := on
  have kind : d.kind? names.reverse = node.map Node.kind :=
    congrArg (Option.map Node.kind) stands.symm
  rcases node with _ | ⟨content⟩ | ⟨entries⟩
  · simp [Spot.step, step?, Spot.place, kind, Except.map]
  · simp [Spot.step, step?, Spot.place, kind, Node.kind, Except.map]
  · simp only [Spot.step, step?, Spot.place, kind, Option.map_some, Node.kind]
    split_ifs with here up long
    · refine ⟨rfl, ?_⟩
      rintro s' ⟨⟩
      exact ⟨stands, trail⟩
    · cases names with
      | nil =>
          refine ⟨rfl, ?_⟩
          rintro s' ⟨⟩
          exact ⟨stands, trail⟩
      | cons name names =>
          cases around with
          | nil => exact absurd trail id
          | cons above around =>
              refine ⟨by simp [Except.map, Spot.place], ?_⟩
              rintro s' ⟨⟩
              exact ⟨trail.1.symm, trail.2⟩
    · refine ⟨rfl, ?_⟩
      rintro s' ⟨⟩
    · refine ⟨by simp [Except.map, Spot.place], ?_⟩
      rintro s' ⟨⟩
      refine ⟨?_, stands.symm, trail⟩
      have below : d.node? (names.reverse ++ [piece]) = Node.lookup piece entries := by
        rw [node?_concat]
        exact congrArg (Option.bind · (Node.child? piece)) stands.symm
      simpa [Spot.place] using below.symm

theorem foldlM_step {s : Spot} (on : s.On d) (pieces : List String) :
    (pieces.foldlM Spot.step s).map Spot.place = pieces.foldlM d.step? s.place ∧
      ∀ s', pieces.foldlM Spot.step s = .ok s' → s'.On d := by
  induction pieces generalizing s with
  | nil => exact ⟨rfl, fun s' same => by cases same; exact on⟩
  | cons piece rest ih =>
      obtain ⟨place, next⟩ := on.step piece
      rw [List.foldlM_cons, List.foldlM_cons, ← place]
      cases stepped : s.step piece with
      | error e => exact ⟨rfl, nofun⟩
      | ok s' => exact ih (next s' stepped)

/-! ## Places -/

/-- The path is one that can be followed: it has a length that is taken and holds no
character that is not. -/
structure Followable (path : Path) : Prop where
  nonempty : path.text.isEmpty = false
  noNul : (path.text.toList.any fun c => c.toNat = 0) = false
  short : path.text.utf8ByteSize ≤ pathLimit

theorem locate_of_followable (followable : Followable path) :
    d.locate path = (d.followed path).foldlM Spot.step (.root d) := by
  obtain ⟨nonempty, noNul, short⟩ := followable
  rw [locate, nonempty, noNul, if_neg (Nat.not_lt.mpr short)]
  rfl

theorem followable_of_locate {s : Spot} (located : d.locate path = .ok s) : Followable path := by
  rw [locate] at located
  by_cases nonempty : path.text.isEmpty = true
  · simp [nonempty] at located
  · by_cases noNul : (path.text.toList.any fun c => c.toNat = 0) = true
    · rw [if_neg nonempty, if_pos noNul] at located
      cases located
    · by_cases long : pathLimit < path.text.utf8ByteSize
      · rw [if_neg nonempty, if_neg noNul, if_pos long] at located
        cases located
      · exact ⟨Bool.not_eq_true _ ▸ nonempty, Bool.not_eq_true _ ▸ noNul, Nat.not_lt.mp long⟩

theorem locate_on {s : Spot} (located : d.locate path = .ok s) : s.On d := by
  rw [locate_of_followable (followable_of_locate located)] at located
  exact (foldlM_step (Spot.on_root d) (d.followed path)).2 s located

theorem leadsTo_of_locate {s : Spot} (located : d.locate path = .ok s) :
    d.leadsTo path = .ok s.place := by
  rw [leadsTo, located]
  rfl

/-- What a path leads to, by its place. -/
theorem locate_of_leadsTo {place : Location} (leads : d.leadsTo path = .ok place) :
    ∃ s, d.locate path = .ok s ∧ s.place = place := by
  cases located : d.locate path with
  | error e => simp [leadsTo, located, Except.map] at leads
  | ok s => exact ⟨s, rfl, by simpa [leadsTo, located, Except.map] using leads⟩

theorem leadsTo_ok_iff {place : Location} :
    d.leadsTo path = .ok place ↔
      Followable path ∧ (d.followed path).foldlM d.step? [] = .ok place := by
  have walk := (foldlM_step (Spot.on_root d) (d.followed path)).1
  constructor
  · intro leads
    obtain ⟨s, located, rfl⟩ := locate_of_leadsTo leads
    have followable := followable_of_locate located
    rw [locate_of_followable followable] at located
    rw [located] at walk
    exact ⟨followable, walk.symm⟩
  · rintro ⟨followable, walked⟩
    rw [leadsTo, locate_of_followable followable, walk]
    exact walked

/-! ## One step after another -/

/-- The step was made from a directory. -/
theorem step?_ok {place place' : Location} {piece : String}
    (stepped : d.step? place piece = .ok place') : d.kind? place = some .directory := by
  unfold step? at stepped
  split at stepped
  · cases stepped
  · cases stepped
  · assumption

theorem step?_of_directory {place : Location} (piece : String)
    (stands : d.kind? place = some .directory) (stands' : d'.kind? place = some .directory) :
    d'.step? place piece = d.step? place piece := by
  simp only [step?, stands, stands']

/-- A place that is got to lies in a directory. -/
theorem step?_dropLast {place place' : Location} {piece : String}
    (stepped : d.step? place piece = .ok place') : d.kind? place'.dropLast = some .directory := by
  have stands := step?_ok stepped
  rw [step?, stands] at stepped
  split_ifs at stepped with here up
  · cases stepped
    exact kind?_dropLast stands
  · cases stepped
    exact kind?_dropLast (kind?_dropLast stands)
  · cases stepped
    rwa [List.dropLast_concat]

theorem walk_append {front back : List String} {place place' : Location} :
    (front ++ back).foldlM d.step? place = .ok place' ↔
      ∃ between, front.foldlM d.step? place = .ok between ∧
        back.foldlM d.step? between = .ok place' := by
  rw [List.foldlM_append]
  cases front.foldlM d.step? place <;> simp [bind, Except.bind]

theorem walk_cons {piece : String} {rest : List String} {place place' : Location} :
    (piece :: rest).foldlM d.step? place = .ok place' ↔
      ∃ next, d.step? place piece = .ok next ∧ rest.foldlM d.step? next = .ok place' := by
  rw [List.foldlM_cons]
  cases d.step? place piece <;> simp [bind, Except.bind]

/-- A name leads nowhere but to the place of that name in a directory. -/
theorem of_walk_name {place place' : Location} {name : String} (plain : name ≠ "." ∧ name ≠ "..")
    (walked : [name].foldlM d.step? place = .ok place') :
    d.kind? place = some .directory ∧ place' = place ++ [name] := by
  obtain ⟨next, stepped, ending⟩ := walk_cons.mp walked
  have stands := step?_ok stepped
  rw [step?, stands, if_neg plain.1, if_neg plain.2] at stepped
  split_ifs at stepped
  cases stepped
  cases ending
  exact ⟨stands, rfl⟩

theorem walk_dropLast {pieces : List String} {place place' : Location}
    (start : d.kind? place.dropLast = some .directory)
    (walked : pieces.foldlM d.step? place = .ok place') :
    d.kind? place'.dropLast = some .directory := by
  induction pieces generalizing place with
  | nil =>
      cases walked
      exact start
  | cons piece rest ih =>
      obtain ⟨next, stepped, others⟩ := walk_cons.mp walked
      exact ih (step?_dropLast stepped) others

theorem leadsTo_dropLast {place : Location} (leads : d.leadsTo path = .ok place) :
    d.kind? place.dropLast = some .directory := by
  have start : d.kind? ([] : Location).dropLast = some .directory := d.kind?_root
  exact walk_dropLast start (leadsTo_ok_iff.mp leads).2

/-! ## Directories that stay -/

/-- No directory is lost from one disk to the other. -/
structure Keeps (d d' : Disk) : Prop where
  working : d'.working = d.working
  directories : ∀ place, d.kind? place = some .directory → d'.kind? place = some .directory

theorem Keeps.refl (d : Disk) : Keeps d d := ⟨rfl, fun _ => id⟩

theorem Keeps.trans {d'' : Disk} (first : Keeps d d') (second : Keeps d' d'') : Keeps d d'' :=
  ⟨second.working.trans first.working,
    fun place stands => second.directories place (first.directories place stands)⟩

theorem Keeps.walk (keeps : Keeps d d') {pieces : List String} {place place' : Location}
    (walked : pieces.foldlM d.step? place = .ok place') :
    pieces.foldlM d'.step? place = .ok place' := by
  induction pieces generalizing place with
  | nil => exact walked
  | cons piece rest ih =>
      obtain ⟨next, stepped, others⟩ := walk_cons.mp walked
      have stands := step?_ok stepped
      have again := step?_of_directory piece stands (keeps.directories place stands)
      exact walk_cons.mpr ⟨next, again.trans stepped, ih others⟩

/-- Where no directory is lost, a path leads where it led. -/
theorem Keeps.leadsTo (keeps : Keeps d d') {place : Location}
    (leads : d.leadsTo path = .ok place) : d'.leadsTo path = .ok place := by
  obtain ⟨followable, walked⟩ := leadsTo_ok_iff.mp leads
  have same : d'.followed path = d.followed path := by rw [followed, followed, keeps.working]
  exact leadsTo_ok_iff.mpr ⟨followable, same ▸ keeps.walk walked⟩

/-! ## The operations -/

/-- What stands where a path leads. -/
theorem kind_of_locate {s : Spot} (located : d.locate path = .ok s) :
    d.kind? s.place = s.node.map Node.kind :=
  congrArg (Option.map Node.kind) (locate_on located).node.symm

theorem any_isDirectory_iff {s : Spot} (located : d.locate path = .ok s) :
    s.node.any Node.isDirectory = true ↔ d.kind? s.place = some .directory := by
  rw [kind_of_locate located]
  rcases s.node with _ | ⟨content⟩ | ⟨entries⟩ <;> simp [Node.isDirectory, Node.kind]

theorem write_ok_iff {content : ByteArray} :
    d.write path content = .ok d' ↔
      ∃ place, d.leadsTo path = .ok place ∧ asksDirectory path = false ∧
        d.kind? place ≠ some .directory ∧ d' = d.insert place (.file content) := by
  constructor
  · intro written
    cases located : d.locate path with
    | error e => simp [write, located, bind, Except.bind] at written
    | ok s =>
        have refusal := any_isDirectory_iff located
        simp only [write, located, bind, Except.bind] at written
        split_ifs at written with refused
        cases written
        simp only [Bool.or_eq_true, not_or, Bool.not_eq_true] at refused
        exact ⟨s.place, leadsTo_of_locate located, refused.1,
          fun directory => by simp [refusal.mpr directory] at refused, rfl⟩
  · rintro ⟨place, leads, noSlash, free, rfl⟩
    obtain ⟨s, located, rfl⟩ := locate_of_leadsTo leads
    have plain : s.node.any Node.isDirectory = false :=
      Bool.eq_false_iff.mpr fun directory => free ((any_isDirectory_iff located).mp directory)
    simp [write, located, bind, Except.bind, noSlash, plain]

theorem makeDirectory_ok_iff :
    d.makeDirectory path = .ok d' ↔
      ∃ place, d.leadsTo path = .ok place ∧ d.kind? place = none ∧
        d' = d.insert place (.directory []) := by
  constructor
  · intro made
    cases located : d.locate path with
    | error e => simp [makeDirectory, located, bind, Except.bind] at made
    | ok s =>
        simp only [makeDirectory, located, bind, Except.bind] at made
        split_ifs at made with taken
        cases made
        refine ⟨s.place, leadsTo_of_locate located, ?_, rfl⟩
        rw [kind_of_locate located, Option.not_isSome_iff_eq_none.mp taken]
        rfl
  · rintro ⟨place, leads, free, rfl⟩
    obtain ⟨s, located, rfl⟩ := locate_of_leadsTo leads
    rw [kind_of_locate located, Option.map_eq_none_iff] at free
    simp [makeDirectory, located, bind, Except.bind, free]

theorem read_of_file {place : Location} {content : ByteArray} (leads : d.leadsTo path = .ok place)
    (noSlash : asksDirectory path = false) (stands : d.kind? place = some (.file content)) :
    d.read path = .ok content := by
  obtain ⟨s, located, rfl⟩ := locate_of_leadsTo leads
  rw [kind_of_locate located, Option.map_eq_some_iff] at stands
  obtain ⟨node, found, file⟩ := stands
  rw [Node.kind_eq_file_iff.mp file] at found
  simp [read, find?, located, found, noSlash, bind, Except.bind]

/-- A directory is found by every path that leads to it. -/
theorem find?_of_directory {place : Location} (leads : d.leadsTo path = .ok place)
    (stands : d.kind? place = some .directory) :
    ∃ entries, d.find? path = .ok (.directory entries) := by
  obtain ⟨s, located, rfl⟩ := locate_of_leadsTo leads
  rw [kind_of_locate located, Option.map_eq_some_iff] at stands
  obtain ⟨node, found, directory⟩ := stands
  obtain ⟨entries, rfl⟩ := Node.kind_eq_directory_iff.mp directory
  exact ⟨entries, by simp [find?, located, found, bind, Except.bind]⟩

/-- What a write changes: the place of its path is a file of that content. -/
theorem kind?_of_write {content : ByteArray} (written : d.write path content = .ok d') :
    ∃ place, d.leadsTo path = .ok place ∧ d.kind? place ≠ some .directory ∧
      d'.working = d.working ∧ ∀ other,
        d'.kind? other = if other = place then some (.file content) else d.kind? other := by
  obtain ⟨place, leads, -, free, rfl⟩ := write_ok_iff.mp written
  exact ⟨place, leads, free, rfl,
    kind?_insert (Node.leaf_file content) (leadsTo_dropLast leads) free⟩

theorem keeps_of_write {content : ByteArray} (written : d.write path content = .ok d') :
    Keeps d d' := by
  obtain ⟨place, -, free, working, kinds⟩ := kind?_of_write written
  refine ⟨working, fun other stands => ?_⟩
  have apart : other ≠ place := by
    rintro rfl
    exact free stands
  rw [kinds, if_neg apart, stands]

/-- The file that was written is read back. -/
theorem read_of_write {content : ByteArray} (written : d.write path content = .ok d') :
    d'.read path = .ok content := by
  obtain ⟨place, leads, noSlash, -⟩ := write_ok_iff.mp written
  obtain ⟨place', leads', -, -, kinds⟩ := kind?_of_write written
  cases leads.symm.trans leads'
  exact read_of_file ((keeps_of_write written).leadsTo leads) noSlash (by rw [kinds, if_pos rfl])

theorem kind?_of_makeDirectory (made : d.makeDirectory path = .ok d') :
    ∃ place, d.leadsTo path = .ok place ∧ d.kind? place = none ∧
      d'.working = d.working ∧ ∀ other,
        d'.kind? other = if other = place then some .directory else d.kind? other := by
  obtain ⟨place, leads, free, rfl⟩ := makeDirectory_ok_iff.mp made
  exact ⟨place, leads, free, rfl,
    kind?_insert Node.leaf_emptyDirectory (leadsTo_dropLast leads) (by simp [free])⟩

end BoardCompiler.Disk
