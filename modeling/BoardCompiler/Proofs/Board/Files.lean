/-
# BoardCompiler.Proofs.Board.Files — files load as the documents in them

The boards of documents are put together one after another, and the first document that
is refused decides (`ofDocuments_eq_error_iff`). Files are loaded in the same way, but each
is read only when its turn comes (`Reads`). So they load as their documents do
(`endsFrom_loadFiles_of_reads`), and what ends the loading early, a document that is refused
(`endsFrom_loadFiles_refused`) or a file that cannot be read (`endsFrom_loadFiles_unreadable`),
is said of its file and leaves the files behind it unread.
-/
import BoardCompiler.Proofs.Jobs
import BoardCompiler.Proofs.Traversal

namespace BoardCompiler

set_option autoImplicit false

/-! ## Documents one after another -/

namespace Board

theorem foldl_extend (b : Board) (boards : List Board) :
    boards.foldl extend b = b.extend (boards.foldl extend empty) := by
  induction boards generalizing b with
  | nil => simp [extend, empty]
  | cons c rest ih =>
      rw [List.foldl_cons, List.foldl_cons, ih (b.extend c), ih (empty.extend c)]
      simp [extend, empty]

theorem ofDocuments_nil : ofDocuments [] = .ok empty := rfl

theorem ofDocuments_cons_eq_ok_iff {text : String} {rest : List String} {board : Board} :
    ofDocuments (text :: rest) = .ok board ↔
      ∃ b c, ofYaml text = .ok b ∧ ofDocuments rest = .ok c ∧ board = b.extend c := by
  unfold ofDocuments
  rw [List.mapM_cons]
  cases ofYaml text with
  | error e => exact iff_of_false nofun (by simp)
  | ok b =>
      cases rest.mapM ofYaml with
      | error e => exact iff_of_false nofun (by simp [bind, Except.bind])
      | ok boards =>
          have folded : (b :: boards).foldl extend empty = b.extend (boards.foldl extend empty) :=
            foldl_extend b boards
          change Except.ok ((b :: boards).foldl extend empty) = .ok board ↔ _
          rw [folded]
          simp [bind, Except.bind, pure, Except.pure, eq_comm]

theorem exists_ofDocuments_iff {texts : List String} :
    (∃ board, ofDocuments texts = .ok board) ↔ ∀ text ∈ texts, ∃ b, ofYaml text = .ok b := by
  induction texts with
  | nil => simp [ofDocuments_nil]
  | cons text rest ih =>
      rw [List.forall_mem_cons, ← ih]
      simp only [ofDocuments_cons_eq_ok_iff]
      constructor
      · rintro ⟨_, b, c, first, others, rfl⟩
        exact ⟨⟨b, first⟩, c, others⟩
      · rintro ⟨⟨b, first⟩, c, others⟩
        exact ⟨_, b, c, first, others, rfl⟩

theorem ofDocuments_eq_error_iff {texts : List String} {error : BoardError} :
    ofDocuments texts = .error error ↔ ∃ before text after, texts = before ++ text :: after ∧
      (∃ board, ofDocuments before = .ok board) ∧ ofYaml text = .error error := by
  simp only [exists_ofDocuments_iff, ← mapM_eq_error_iff]
  unfold ofDocuments
  cases texts.mapM ofYaml <;> simp [bind, Except.bind, pure, Except.pure]

end Board

/-! ## Files one after another -/

namespace Project

variable {σ : Type} [FileStore (StateM σ)]

/-- The files are there to be read, one after another: each holds its text when its turn
comes, and reading it leads from one state to the next. -/
inductive Reads : List (Path × String) → σ → σ → Prop
  | nil (s : σ) : Reads [] s s
  | cons {path : Path} {text : String} {files : List (Path × String)} {s s' s'' : σ}
      (read : (FileStore.readText path : ExceptT FileError (StateM σ) String).run s =
        (.ok text, s'))
      (rest : Reads files s' s'') : Reads ((path, text) :: files) s s''

variable {path : Path} {text : String} {files : List (Path × String)} {s s' s'' : σ}
  {board : Board}

theorem Reads.exists_between {front back : List (Path × String)}
    (reads : Reads (front ++ back) s s'') : ∃ s', Reads front s s' ∧ Reads back s' s'' := by
  induction front generalizing s with
  | nil => exact ⟨s, .nil s, reads⟩
  | cons file rest ih =>
      cases reads with
      | cons read others =>
          obtain ⟨s', before, after⟩ := ih others
          exact ⟨s', .cons read before, after⟩

theorem endsFrom_loadFile (path : Path) (s : σ) :
    (loadFile path).endsFrom s =
      match (FileStore.readText path : ExceptT FileError (StateM σ) String).run s with
      | (.error cause, s') => (.error (.file .read path cause), s')
      | (.ok text, s') => ((Board.ofYaml text).mapError (.board path), s') := by
  rw [loadFile, LoggedT.endsFrom_bind, endsFrom_onFile]
  rcases (FileStore.readText path : ExceptT FileError (StateM σ) String).run s with
    ⟨cause | text, s'⟩
  · rfl
  · simp only [Except.mapError]
    rw [LoggedT.endsFrom_bind]
    cases Board.ofYaml text <;> rfl

theorem endsFrom_loadFiles_cons (path : Path) (rest : List Path) (s : σ) :
    (loadFiles (path :: rest)).endsFrom s =
      match (loadFile path).endsFrom s with
      | (.error e, s') => (.error e, s')
      | (.ok b, s') =>
        match (loadFiles rest).endsFrom s' with
        | (.error e, s'') => (.error e, s'')
        | (.ok c, s'') => (.ok (b.extend c), s'') := by
  rw [loadFiles, LoggedT.endsFrom_bind]
  rcases (loadFile path).endsFrom s with ⟨e | b, s'⟩
  · rfl
  · dsimp only
    rw [LoggedT.endsFrom_bind]
    rcases (loadFiles rest).endsFrom s' with ⟨e | c, s''⟩ <;> rfl

/-- Files whose documents make up a board are passed, and the board goes in front. -/
theorem endsFrom_loadFiles_append (reads : Reads files s s')
    (made : Board.ofDocuments (files.map Prod.snd) = .ok board) (rest : List Path) :
    (loadFiles (files.map Prod.fst ++ rest)).endsFrom s =
      match (loadFiles rest).endsFrom s' with
      | (.error e, s'') => (.error e, s'')
      | (.ok c, s'') => (.ok (board.extend c), s'') := by
  induction reads generalizing board with
  | nil s =>
      cases made
      rw [List.map_nil, List.nil_append]
      rcases (loadFiles rest).endsFrom s with ⟨e | c, s'⟩ <;> rfl
  | @cons path text files s s₁ s₂ read others ih =>
      obtain ⟨b, c, first, tail, rfl⟩ := Board.ofDocuments_cons_eq_ok_iff.mp made
      rw [List.map_cons, List.cons_append, endsFrom_loadFiles_cons, endsFrom_loadFile, read]
      simp only [first, Except.mapError, ih tail]
      rcases (loadFiles rest).endsFrom s₂ with ⟨e | d, s'⟩
      · rfl
      · simp [Board.extend]

/-- The files of documents that make up a board load as that board. -/
theorem endsFrom_loadFiles_of_reads (reads : Reads files s s')
    (made : Board.ofDocuments (files.map Prod.snd) = .ok board) :
    (loadFiles (files.map Prod.fst)).endsFrom s = (.ok board, s') := by
  have nothing : (loadFiles (m := StateM σ) []).endsFrom s' = (.ok .empty, s') := rfl
  have ends := endsFrom_loadFiles_append reads made []
  rw [List.append_nil, nothing] at ends
  simpa [Board.extend, Board.empty] using ends

/-- The first document that is refused ends the loading. -/
theorem endsFrom_loadFiles_refused {error : BoardError} (reads : Reads files s s')
    (made : Board.ofDocuments (files.map Prod.snd) = .ok board)
    (read : (FileStore.readText path : ExceptT FileError (StateM σ) String).run s' =
      (.ok text, s''))
    (refused : Board.ofYaml text = .error error) (rest : List Path) :
    (loadFiles (files.map Prod.fst ++ path :: rest)).endsFrom s =
      (.error (.board path error), s'') := by
  rw [endsFrom_loadFiles_append reads made, endsFrom_loadFiles_cons, endsFrom_loadFile, read]
  simp [refused, Except.mapError]

/-- The first file that cannot be read ends the loading. -/
theorem endsFrom_loadFiles_unreadable {cause : FileError} (reads : Reads files s s')
    (made : Board.ofDocuments (files.map Prod.snd) = .ok board)
    (fails : (FileStore.readText path : ExceptT FileError (StateM σ) String).run s' =
      (.error cause, s'')) (rest : List Path) :
    (loadFiles (files.map Prod.fst ++ path :: rest)).endsFrom s =
      (.error (.file .read path cause), s'') := by
  rw [endsFrom_loadFiles_append reads made, endsFrom_loadFiles_cons, endsFrom_loadFile, fails]

/-- Files that can all be read end in the error about the first document that is refused. -/
theorem outcome_loadFiles_of_refused {before after : List (Path × String)} {error : BoardError}
    (reads : Reads (before ++ (path, text) :: after) s s')
    (made : ∃ board, Board.ofDocuments (before.map Prod.snd) = .ok board)
    (refused : Board.ofYaml text = .error error) :
    ((loadFiles ((before ++ (path, text) :: after).map Prod.fst)).endsFrom s).1 =
      .error (.board path error) := by
  obtain ⟨board, made⟩ := made
  obtain ⟨between, passed, rest⟩ := reads.exists_between
  cases rest with
  | cons read =>
      rw [List.map_append, List.map_cons, endsFrom_loadFiles_refused passed made read refused]

/-- Files that can all be read load as the documents in them, and an error names the file of
the document that it is about. -/
theorem outcome_loadFiles_of_reads (reads : Reads files s s') :
    (∀ board, ((loadFiles (files.map Prod.fst)).endsFrom s).1 = .ok board ↔
      Board.ofDocuments (files.map Prod.snd) = .ok board) ∧
    ∀ failure, ((loadFiles (files.map Prod.fst)).endsFrom s).1 = .error failure ↔
      ∃ before path text after error, files = before ++ (path, text) :: after ∧
        (∃ board, Board.ofDocuments (before.map Prod.snd) = .ok board) ∧
        Board.ofYaml text = .error error ∧ failure = .board path error := by
  cases made : Board.ofDocuments (files.map Prod.snd) with
  | ok whole =>
      rw [endsFrom_loadFiles_of_reads reads made]
      refine ⟨fun board => by simp, fun failure => iff_of_false nofun ?_⟩
      rintro ⟨before, path, text, after, error, rfl, -, failed, -⟩
      have all := Board.exists_ofDocuments_iff.mp ⟨whole, made⟩ text (by simp)
      simp [failed] at all
  | error error =>
      -- The refused document stands in one of the files, at the same place of the list.
      obtain ⟨texts, text, others, split, passed, failed⟩ :=
        Board.ofDocuments_eq_error_iff.mp made
      obtain ⟨before, _, rfl, rfl, rest⟩ := List.map_eq_append_iff.mp split
      obtain ⟨⟨path, _⟩, after, rfl, rfl, rfl⟩ := List.map_eq_cons_iff.mp rest
      have ended := outcome_loadFiles_of_refused reads passed failed
      constructor
      · intro board
        rw [ended]
        exact iff_of_false nofun nofun
      · intro failure
        constructor
        · intro given
          rw [ended] at given
          cases given
          exact ⟨before, path, _, after, error, rfl, passed, failed, rfl⟩
        · rintro ⟨before', path', text', after', error', same, passed', failed', rfl⟩
          rw [same] at reads ⊢
          exact outcome_loadFiles_of_refused reads passed' failed'

end Project

end BoardCompiler
