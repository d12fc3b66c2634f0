/-
# BoardCompiler.Proofs.FindManifest — the nearest manifest decides

A directory has a manifest if a regular file of that name stands in it
(`ManifestIn`); a directory of the name is none. The search asks for one in the starting
directory and in those around it, outward, and in no other; at the first that has one it
stops (`endsFrom_firstManifest_nearest`), and what reading that file gave decides what the
search ends in (`Verdict`), be it an error. `findManifest_nearest` puts both together,
for every store that shows files as they are, whether it lets them be read or not. A file
that the store cannot look at is not there for the search.
-/
import BoardCompiler.Proofs.Files.Outward
import BoardCompiler.Proofs.Jobs

namespace BoardCompiler

set_option autoImplicit false

namespace Disk

variable {d : Disk} {path : Path}

/-- What the store says of a file is so on the disk of the state, and looking at files
changes nothing there. It may still refuse to read one. The disk is the tree as the store
can look at it: a store that answers no for a file that it cannot look at, in a directory
that it may not search or under a path over its limit, shows a disk without that file. -/
structure Shows {σ : Type} (disk : σ → Disk) (store : FileStore (StateM σ)) : Prop where
  isFile : ∀ path s, (store.isFile path s).1 = true ↔
    ∃ content, (disk s).find? path = .ok (.file content)
  isFile_keeps : ∀ path s, disk (store.isFile path s).2 = disk s
  read : ∀ path s content, ((store.read path).run s).1 = .ok content →
    (disk s).find? path = .ok (.file content)
  read_keeps : ∀ path s, disk ((store.read path).run s).2 = disk s

theorem read_ok_iff {content : ByteArray} :
    d.read path = .ok content ↔ d.find? path = .ok (.file content) := by
  rw [read]
  rcases d.find? path with e | ⟨inner⟩ | ⟨entries⟩ <;> simp [bind, Except.bind]

theorem shows_disk : Shows id (inferInstance : FileStore (StateM Disk)) where
  isFile path d := by
    rcases found : d.find? path with e | ⟨content⟩ | ⟨entries⟩ <;> simp [FileStore.isFile, found]
  isFile_keeps _ _ := rfl
  read _ _ _ content := read_ok_iff.mp content
  read_keeps _ _ := rfl

/-- A name leads from a directory to the place of that name in it. -/
theorem walk_name_iff {place place' : Location} {name : String}
    (plain : name ≠ "." ∧ name ≠ "..") (short : name.utf8ByteSize ≤ nameLimit) :
    [name].foldlM d.step? place = .ok place' ↔
      d.kind? place = some .directory ∧ place' = place ++ [name] := by
  constructor
  · exact of_walk_name plain
  · rintro ⟨stands, rfl⟩
    have fits : ¬ nameLimit < name.utf8ByteSize := by omega
    have step : d.step? place name = .ok (place ++ [name]) := by
      simp only [step?, stands, if_neg plain.1, if_neg plain.2, if_neg fits]
    exact walk_cons.mpr ⟨_, step, rfl⟩

/-- A path finds a file where it leads to one, unless it asks for a directory. -/
theorem find?_file_iff {content : ByteArray} :
    d.find? path = .ok (.file content) ↔ asksDirectory path = false ∧
      ∃ place, d.leadsTo path = .ok place ∧ d.kind? place = some (.file content) := by
  constructor
  · intro found
    cases located : d.locate path with
    | error e => simp [find?, located, bind, Except.bind] at found
    | ok s =>
        have stands := kind_of_locate located
        simp only [find?, located, bind, Except.bind] at found
        rcases node : s.node with _ | ⟨inner⟩ | ⟨entries⟩
        · simp [node] at found
        · rw [node] at found stands
          simp only at found
          split_ifs at found with slash
          cases found
          exact ⟨Bool.not_eq_true _ ▸ slash, s.place, leadsTo_of_locate located, stands⟩
        · simp [node] at found
  · rintro ⟨noSlash, place, leads, stands⟩
    have content := read_of_file leads noSlash stands
    exact read_ok_iff.mp content

end Disk

namespace Project

open Disk (Followable Shows)
open Job (onFile)

/-! ## Directories with a manifest -/

/-- The directory that the path stands for has a regular file in it that is its
manifest, and the file's path is one that can be followed. On the disk that a store shows
(`Disk.Shows`), that is a manifest that the store can look at; one that is there without
the store seeing it is passed like none. -/
structure ManifestIn (d : Disk) (directory : Path) (content : ByteArray) : Prop where
  followable : Followable (directory.join manifestName)
  stands : ∃ place, (d.followed directory).foldlM d.step? [] = .ok place ∧
    d.kind? (place ++ [manifestName.text]) = some (.file content)

theorem followed_manifest (d : Disk) (directory : Path) :
    d.followed (directory.join manifestName) = d.followed directory ++ [manifestName.text] := by
  have single : Disk.pieces manifestName = [manifestName.text] := by decide
  have relative : manifestName.isAbsolute = false := by decide
  rcases directory with ⟨text⟩
  by_cases empty : text = ""
  · subst empty
    show d.working ++ Disk.pieces manifestName = d.working ++ [] ++ [manifestName.text]
    rw [single, List.append_nil]
  · rw [Disk.followed_join d empty relative, single]

theorem asksDirectory_manifest (directory : Path) :
    Disk.asksDirectory (directory.join manifestName) = false := by
  have relative : manifestName.isAbsolute = false := by decide
  rcases directory with ⟨text⟩
  by_cases empty : text = ""
  · subst empty
    decide
  · have nonempty : (⟨text⟩ : Path).text ≠ "" := empty
    obtain ⟨front, whole, -⟩ := Path.text_join nonempty relative
    have last : ('/' :: manifestName.text.toList).getLast? = some 'l' := by decide
    rw [Disk.asksDirectory, whole, List.getLast?_append, last]
    rfl

/-- The manifest is what the store is asked for. -/
theorem find?_manifest_iff {d : Disk} {directory : Path} {content : ByteArray} :
    d.find? (directory.join manifestName) = .ok (.file content) ↔
      ManifestIn d directory content := by
  have plain : manifestName.text ≠ "." ∧ manifestName.text ≠ ".." := by decide
  have short : manifestName.text.utf8ByteSize ≤ Disk.nameLimit := by decide
  have walk (place : Disk.Location) :
      (d.followed directory ++ [manifestName.text]).foldlM d.step? [] = .ok place ↔
        ∃ around, (d.followed directory).foldlM d.step? [] = .ok around ∧
          [manifestName.text].foldlM d.step? around = .ok place :=
    Disk.walk_append
  rw [Disk.find?_file_iff, asksDirectory_manifest]
  simp only [Disk.leadsTo_ok_iff, followed_manifest, walk, true_and]
  constructor
  · rintro ⟨place, ⟨followable, around, reached, last⟩, stands⟩
    obtain ⟨-, rfl⟩ := (Disk.walk_name_iff plain short).mp last
    exact ⟨followable, around, reached, stands⟩
  · rintro ⟨followable, around, reached, stands⟩
    have directory := Disk.kind?_dropLast stands
    rw [List.dropLast_concat] at directory
    have last := (Disk.walk_name_iff plain short).mpr ⟨directory, rfl⟩
    exact ⟨_, ⟨followable, around, reached, last⟩, stands⟩

/-! ## The search -/

section Search

variable {σ : Type} {disk : σ → Disk} [store : FileStore (StateM σ)]

/-- The state after the directories have been asked for a manifest, one after another. -/
def asked (directories : List Path) (s : σ) : σ :=
  directories.foldl (fun s directory => (store.isFile (directory.join manifestName) s).2) s

/-- The manifest that has been found in a directory. -/
def readManifest (directory : Path) : Job (StateM σ) (Option (Manifest × Path)) := do
  let path := directory.join manifestName
  let text ← onFile .read path (FileStore.readText path)
  match Manifest.ofText text with
  | .ok manifest => return some (manifest, directory)
  | .error e => LoggedT.fail (.manifest path text e)

theorem endsFrom_firstManifest_cons (directory : Path) (rest : List Path) (s : σ) :
    (firstManifest (m := StateM σ) (directory :: rest)).endsFrom s =
      match store.isFile (directory.join manifestName) s with
      | (true, s') => (readManifest directory).endsFrom s'
      | (false, s') => (firstManifest (m := StateM σ) rest).endsFrom s' := by
  rw [firstManifest, LoggedT.endsFrom_bind, LoggedT.endsFrom_lift]
  rcases store.isFile (directory.join manifestName) s with ⟨_ | _, s'⟩ <;> rfl

section Shown

variable (shows : Disk.Shows disk store)
include shows

theorem disk_asked (directories : List Path) (s : σ) : disk (asked directories s) = disk s := by
  induction directories generalizing s with
  | nil => rfl
  | cons directory rest ih => exact (ih _).trans (shows.isFile_keeps _ s)

theorem isFile_manifest_iff (directory : Path) (s : σ) :
    (store.isFile (directory.join manifestName) s).1 = true ↔
      ∃ content, ManifestIn (disk s) directory content := by
  rw [shows.isFile]
  simp only [find?_manifest_iff]

/-- Directories without a manifest are asked and passed. -/
theorem endsFrom_firstManifest_of_none {nearer : List Path} (rest : List Path) {s : σ}
    (none : ∀ closer ∈ nearer, ∀ content, ¬ ManifestIn (disk s) closer content) :
    (firstManifest (m := StateM σ) (nearer ++ rest)).endsFrom s =
      (firstManifest (m := StateM σ) rest).endsFrom (asked nearer s) := by
  induction nearer generalizing s with
  | nil => rfl
  | cons directory others ih =>
      have same := shows.isFile_keeps (directory.join manifestName) s
      have absent : ¬ (store.isFile (directory.join manifestName) s).1 = true := by
        rw [isFile_manifest_iff shows]
        rintro ⟨content, stands⟩
        exact none directory List.mem_cons_self content stands
      rw [List.cons_append, endsFrom_firstManifest_cons]
      rcases looked : store.isFile (directory.join manifestName) s with ⟨_ | _, s'⟩
      · rw [looked] at same
        have later : ∀ closer ∈ others, ∀ content, ¬ ManifestIn (disk s') closer content := by
          rw [same]
          exact fun closer member => none closer (List.mem_cons_of_mem directory member)
        have state : asked (directory :: others) s = asked others s' := by
          rw [asked, List.foldl_cons, looked]
          rfl
        rw [state]
        exact ih later
      · exact absurd (congrArg Prod.fst looked) absent

end Shown

/-! ## The manifest that is found -/

/-- What is made of a manifest once reading its file has given something: a text that
is a manifest is the result, with the directory; everything else is an error about the
file. -/
inductive Verdict (directory : Path) :
    Except FileError ByteArray → Except CommandError (Option (Manifest × Path)) → Prop where
  | accepted {text : String} {manifest : Manifest} (valid : Manifest.ofText text = .ok manifest) :
      Verdict directory (.ok text.toUTF8) (.ok (some (manifest, directory)))
  | refused {text : String} {cause : ManifestError} (wrong : Manifest.ofText text = .error cause) :
      Verdict directory (.ok text.toUTF8)
        (.error (.manifest (directory.join manifestName) text cause))
  | noText {content : ByteArray} (none : ∀ text : String, content ≠ text.toUTF8) :
      Verdict directory (.ok content)
        (.error (.file .read (directory.join manifestName) .notText))
  | unreadable (cause : FileError) :
      Verdict directory (.error cause) (.error (.file .read (directory.join manifestName) cause))

/-- An error that starts with what was being done with the file. -/
def Names (path : Path) (e : CommandError) : Prop :=
  ∃ action detail, e.message = FileAction.context action path ++ detail

theorem Verdict.names {directory : Path} {read : Except FileError ByteArray} {e : CommandError}
    (verdict : Verdict directory read (.error e)) : Names (directory.join manifestName) e := by
  cases verdict with
  | refused wrong => exact ⟨.parse, _, rfl⟩
  | noText none => exact ⟨.read, _, rfl⟩
  | unreadable cause => exact ⟨.read, _, rfl⟩

theorem Verdict.ne_none {directory : Path} {read : Except FileError ByteArray}
    {outcome : Except CommandError (Option (Manifest × Path))}
    (verdict : Verdict directory read outcome) : outcome ≠ .ok none := by
  cases verdict <;> exact nofun

theorem Verdict.of_ok {directory : Path} {read : Except FileError ByteArray}
    {result : Option (Manifest × Path)} (verdict : Verdict directory read (.ok result)) :
    ∃ text manifest, read = .ok text.toUTF8 ∧ Manifest.ofText text = .ok manifest := by
  cases verdict with
  | accepted valid => exact ⟨_, _, rfl, valid⟩

theorem endsFrom_readManifest (directory : Path) (s : σ) :
    (readManifest directory).endsFrom s =
      match (FileStore.readText (directory.join manifestName) :
          ExceptT FileError (StateM σ) String).run s with
      | (.error e, s') => (.error (.file .read (directory.join manifestName) e), s')
      | (.ok text, s') =>
        (match Manifest.ofText text with
          | .ok manifest => .ok (some (manifest, directory))
          | .error e => .error (.manifest (directory.join manifestName) text e), s') := by
  rw [readManifest, LoggedT.endsFrom_bind, endsFrom_onFile]
  rcases (FileStore.readText (directory.join manifestName) :
    ExceptT FileError (StateM σ) String).run s with ⟨cause | text, s'⟩
  · rfl
  · cases judged : Manifest.ofText text <;> simp only [Except.mapError, judged] <;> rfl

/-- What reading the file gives decides, and nothing is done but to read it. -/
theorem verdict_readManifest (directory : Path) (s : σ) :
    Verdict directory ((store.read (directory.join manifestName)).run s).1
        ((readManifest directory).endsFrom s).1 ∧
      ((readManifest directory).endsFrom s).2 =
        ((store.read (directory.join manifestName)).run s).2 := by
  rw [endsFrom_readManifest, FileStore.run_readText]
  rcases (store.read (directory.join manifestName)).run s with ⟨cause | content, s'⟩
  · exact ⟨.unreadable cause, rfl⟩
  · cases decoded : String.fromUTF8? content with
    | none =>
        simp only [decoded]
        refine ⟨.noText fun text same => ?_, trivial⟩
        rw [fromUTF8?_eq_some_iff.mpr same] at decoded
        cases decoded
    | some text =>
        simp only [decoded]
        obtain rfl := fromUTF8?_eq_some_iff.mp decoded
        cases judged : Manifest.ofText text with
        | ok manifest => exact ⟨.accepted judged, trivial⟩
        | error cause => exact ⟨.refused judged, trivial⟩

/-! ## The nearest -/

/-- The first of the directories that has a manifest, with those before it. -/
structure Nearest (d : Disk) (directories nearer : List Path) (directory : Path)
    (content : ByteArray) : Prop where
  first : nearer ++ [directory] <+: directories
  none : ∀ closer ∈ nearer, ∀ content, ¬ ManifestIn d closer content
  manifest : ManifestIn d directory content

theorem exists_nearest {d : Disk} {directories : List Path}
    (some : ∃ directory ∈ directories, ∃ content, ManifestIn d directory content) :
    ∃ nearer directory content, Nearest d directories nearer directory content := by
  induction directories with
  | nil =>
      obtain ⟨directory, member, -⟩ := some
      cases member
  | cons first rest ih =>
      by_cases here : ∃ content, ManifestIn d first content
      · obtain ⟨content, manifest⟩ := here
        exact ⟨[], first, content, List.prefix_append [first] rest, nofun, manifest⟩
      · have later : ∃ directory ∈ rest, ∃ content, ManifestIn d directory content := by
          obtain ⟨directory, member, holds⟩ := some
          rcases List.mem_cons.mp member with rfl | member
          · exact absurd holds here
          · exact ⟨directory, member, holds⟩
        obtain ⟨nearer, directory, content, front, none, manifest⟩ := ih later
        refine ⟨first :: nearer, directory, content, ?_, ?_, manifest⟩
        · exact List.cons_prefix_cons.mpr ⟨rfl, front⟩
        · intro closer member
          rcases List.mem_cons.mp member with rfl | member
          · exact not_exists.mp here
          · exact none closer member

/-- The search stops at the first directory with a manifest: those up to it have been
asked, its file is read, and the verdict on that is the outcome. -/
structure StopsAt (store : FileStore (StateM σ)) (nearer : List Path) (directory : Path)
    (content : ByteArray) (s : σ) (ending : Except CommandError (Option (Manifest × Path)) × σ) :
    Prop where
  verdict : Verdict directory
    ((store.read (directory.join manifestName)).run (asked (nearer ++ [directory]) s)).1 ending.1
  state : ending.2 =
    ((store.read (directory.join manifestName)).run (asked (nearer ++ [directory]) s)).2
  own : ∀ read, ((store.read (directory.join manifestName)).run
    (asked (nearer ++ [directory]) s)).1 = .ok read → read = content
  names : ∀ e, ending.1 = .error e → Names (directory.join manifestName) e

theorem endsFrom_firstManifest_nearest (shows : Disk.Shows disk store) {s : σ}
    {directories nearer : List Path} {directory : Path} {content : ByteArray}
    (nearest : Nearest (disk s) directories nearer directory content) :
    StopsAt store nearer directory content s
      ((firstManifest (m := StateM σ) directories).endsFrom s) := by
  obtain ⟨⟨farther, rfl⟩, none, manifest⟩ := nearest
  have same := disk_asked shows nearer s
  have found : (store.isFile (directory.join manifestName) (asked nearer s)).1 = true := by
    rw [isFile_manifest_iff shows, same]
    exact ⟨content, manifest⟩
  have state : (store.isFile (directory.join manifestName) (asked nearer s)).2 =
      asked (nearer ++ [directory]) s := by
    rw [asked, asked, List.foldl_append]
    rfl
  have ends : (firstManifest (m := StateM σ) (nearer ++ [directory] ++ farther)).endsFrom s =
      (readManifest directory).endsFrom (asked (nearer ++ [directory]) s) := by
    rw [List.append_assoc, endsFrom_firstManifest_of_none shows _ none, List.singleton_append,
      endsFrom_firstManifest_cons, ← state]
    rcases looked : store.isFile (directory.join manifestName) (asked nearer s) with ⟨_ | _, s'⟩
    · cases (congrArg Prod.fst looked).symm.trans found
    · rfl
  obtain ⟨verdict, after⟩ := verdict_readManifest directory (asked (nearer ++ [directory]) s)
  rw [ends]
  refine ⟨verdict, after, fun read got => ?_, fun e failed => ?_⟩
  · have stands := shows.read _ _ _ got
    rw [disk_asked shows, find?_manifest_iff.mpr manifest] at stands
    cases stands
    rfl
  · rw [failed] at verdict
    exact verdict.names

/-- The search goes outward from the starting directory. It finds nothing exactly if no
directory on its way has a manifest. Otherwise the nearest manifest decides, whatever
stands farther out: it is the result with its directory, or an error that names it. -/
theorem findManifest_nearest (shows : Disk.Shows disk store) (start : Path) (s : σ) :
    Path.Outward start start.ancestors ∧
    (((findManifest (m := StateM σ) start).endsFrom s).1 = .ok none ↔
      ∀ directory ∈ start.ancestors, ∀ content, ¬ ManifestIn (disk s) directory content) ∧
    ((∀ directory ∈ start.ancestors, ∀ content, ¬ ManifestIn (disk s) directory content) →
      (findManifest (m := StateM σ) start).endsFrom s = (.ok none, asked start.ancestors s)) ∧
    (∀ nearer directory content,
      Nearest (disk s) start.ancestors nearer directory content →
        StopsAt store nearer directory content s
          ((findManifest (m := StateM σ) start).endsFrom s)) ∧
    disk ((findManifest (m := StateM σ) start).endsFrom s).2 = disk s := by
  have nothing : (∀ directory ∈ start.ancestors, ∀ content,
      ¬ ManifestIn (disk s) directory content) →
      (findManifest (m := StateM σ) start).endsFrom s = (.ok none, asked start.ancestors s) := by
    intro none
    have passed := endsFrom_firstManifest_of_none shows [] none
    rw [List.append_nil] at passed
    exact passed
  have stops : ∀ nearer directory content,
      Nearest (disk s) start.ancestors nearer directory content →
        StopsAt store nearer directory content s
          ((findManifest (m := StateM σ) start).endsFrom s) :=
    fun _ _ _ nearest => endsFrom_firstManifest_nearest shows nearest
  refine ⟨Path.outward_ancestors start, ?_, nothing, stops, ?_⟩
  · constructor
    · intro ended
      by_contra some
      simp only [not_forall, not_not] at some
      obtain ⟨directory, member, holds⟩ := some
      obtain ⟨nearer, found, content, nearest⟩ := exists_nearest ⟨directory, member, holds⟩
      exact (stops nearer found content nearest).verdict.ne_none ended
    · intro none
      rw [nothing none]
  · by_cases none : ∀ directory ∈ start.ancestors, ∀ content,
      ¬ ManifestIn (disk s) directory content
    · rw [nothing none]
      exact disk_asked shows start.ancestors s
    · simp only [not_forall, not_not] at none
      obtain ⟨directory, member, holds⟩ := none
      obtain ⟨nearer, found, content, nearest⟩ := exists_nearest ⟨directory, member, holds⟩
      rw [(stops nearer found content nearest).state, shows.read_keeps, disk_asked shows]

end Search

/-! ## A manifest in the way -/

/-- A project inside another. Its manifest is empty, and a directory below it has a
directory by the name of a manifest. -/
def nestedProject : Disk :=
  ⟨[("a", .directory
      [("b", .directory [("boardc.toml", .directory [])]),
       ("boardc.toml", .file ByteArray.empty)]),
    ("boardc.toml", .file (Manifest.template "outer").toUTF8)], []⟩

theorem nestedProject_nearest :
    Nearest nestedProject (Path.ancestors ⟨"a/b"⟩) [⟨"a/b"⟩] ⟨"a"⟩ ByteArray.empty := by
  have below : Path.ancestors ⟨"a/b"⟩ = ⟨"a/b"⟩ :: Path.ancestors ⟨"a"⟩ :=
    Path.ancestors_of_parent? (by decide)
  have inner : Path.ancestors ⟨"a"⟩ = ⟨"a"⟩ :: Path.ancestors ⟨""⟩ :=
    Path.ancestors_of_parent? (by decide)
  refine ⟨?_, ?_, ?_⟩
  · rw [below, inner]
    exact ⟨Path.ancestors ⟨""⟩, rfl⟩
  · intro closer member content manifest
    rw [List.mem_singleton.mp member] at manifest
    have found := find?_manifest_iff.mpr manifest
    have directory : nestedProject.find? (Path.join ⟨"a/b"⟩ manifestName) = .ok (.directory []) :=
      rfl
    cases directory.symm.trans found
  · exact find?_manifest_iff.mp rfl

/-- The empty manifest is the outcome, as an error; the outer one is not looked at. -/
theorem nestedProject_refused :
    Nearest nestedProject (Path.ancestors ⟨"a/b"⟩) [⟨"a/b"⟩] ⟨"a"⟩ ByteArray.empty ∧
      ∃ e, ((findManifest (m := StateM Disk) ⟨"a/b"⟩).endsFrom nestedProject).1 = .error e ∧
        Names ⟨"a/boardc.toml"⟩ e := by
  have stops := (findManifest_nearest Disk.shows_disk ⟨"a/b"⟩ nestedProject).2.2.2.1 _ _ _
    nestedProject_nearest
  refine ⟨nestedProject_nearest, ?_⟩
  cases outcome : ((findManifest (m := StateM Disk) ⟨"a/b"⟩).endsFrom nestedProject).1 with
  | error e => exact ⟨e, rfl, stops.names e outcome⟩
  | ok result =>
      have verdict := stops.verdict
      rw [outcome] at verdict
      obtain ⟨text, manifest, read, valid⟩ := verdict.of_ok
      have empty : "".toUTF8 = text.toUTF8 := Except.ok.inj read
      rw [← String.toByteArray_inj.mp empty] at valid
      have refused : (Manifest.ofText "").toOption.isSome = false := by decide
      rw [valid] at refused
      cases refused

end Project

end BoardCompiler
