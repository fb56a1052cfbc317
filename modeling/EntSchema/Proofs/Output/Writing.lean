import EntSchema.Proofs.Output.Stems
import EntSchema.Proofs.Storage.Tree

/-!
# What writing leaves behind

The stems that the check accepts are names of different files inside the directory (`Apart`), so no
file is written over another one, and each write adds one file to what is in place (`Filled.snoc`).
A run that goes through puts all files in place and changes nothing else; one that stops at a file
has put those in front of it in place (`writeFiles_written`).

The file system is any map: what is said of places holds of every path that leads to them.
-/

namespace EntSchema.Output

open Fold Storage PlacedFileSystem

/-! ## Files apart from each other -/

theorem isName_of_not_misnamed {stem : String} (h : ¬Misnamed stem) :
    IsName (stem ++ fileEnding) := by
  have hslash : '/' ∉ stem.toList := by
    intro hmem
    exact h (.inr (.inr (.inr ⟨'/', hmem, .inl rfl⟩)))
  have hlonger : ∀ text : String, text.length < 3 → stem ++ fileEnding ≠ text := by
    intro text hshort heq
    have hlength : stem.length + 3 = text.length := by
      rw [← heq, String.length_append]
      rfl
    omega
  constructor
  · exact hlonger "" (by decide)
  · exact hlonger "." (by decide)
  · exact hlonger ".." (by decide)
  · rw [String.toList_append, List.mem_append]
    rintro (hmem | hmem)
    · exact hslash hmem
    · exact absurd hmem (by decide)

section Apart

variable {directory : String} {files : List SchemaFile}

/-- The check accepts files with names of their own. -/
theorem checkStems_eq_ok_iff_nodup :
    checkStems files = .ok () ↔
      (∀ file ∈ files, ¬Misnamed file.stem) ∧ (files.map (·.stem)).Nodup := by
  have hoffends : ∀ stem, ¬Offends [] stem ↔ ¬Misnamed stem := by
    intro stem
    rw [Offends, or_iff_left List.not_mem_nil]
  rw [checkStems_eq_ok, ← inoffensive_map_iff, inoffensive_iff, List.forall_mem_map]
  simp only [hoffends]

/-- A file that the check accepts is a file inside the directory. -/
theorem nameIn_filePath (directory : String) {file : SchemaFile} (h : ¬Misnamed file.stem) :
    NameIn directory (file.stem ++ fileEnding) (filePath directory file) :=
  nameIn_joinPath directory (isName_of_not_misnamed h)

variable {σ : Type} [PathMap σ] {state : σ}

/-- The place of a file inside a directory. -/
def spot (state : σ) (directory : String) (file : SchemaFile) : Place σ :=
  place state (filePath directory file)

/-- The files lie inside the directory, at different paths and in different places. -/
structure Apart (directory : String) (files : List SchemaFile) (state : σ) : Prop where
  inside : ∀ file ∈ files,
    NameIn directory (file.stem ++ fileEnding) (filePath directory file)
  paths : (files.map (filePath directory)).Nodup
  spots : (files.map (spot state directory)).Nodup

/-- **The check keeps the files apart.** -/
theorem apart_of_checkStems (h : checkStems files = .ok ()) (directory : String) (state : σ) :
    Apart directory files state := by
  obtain ⟨hnames, hstems⟩ := checkStems_eq_ok_iff_nodup.1 h
  have hinside : ∀ file ∈ files,
      NameIn directory (file.stem ++ fileEnding) (filePath directory file) := by
    intro file hmem
    exact nameIn_filePath directory (hnames file hmem)
  have hspots : (files.map (spot state directory)).Nodup := by
    rw [List.Nodup, List.pairwise_map] at hstems ⊢
    apply List.Pairwise.imp_of_mem _ hstems
    intro file other hfile hother hne heq
    have hends : file.stem ++ fileEnding = other.stem ++ fileEnding :=
      PathMap.place_inj (hinside file hfile) (hinside other hother) heq
    exact hne (String.append_left_inj _ |>.1 hends)
  have hpaths : (files.map (filePath directory)).Nodup := by
    rw [List.Nodup, List.pairwise_map] at hspots ⊢
    apply hspots.imp
    intro file other hne heq
    exact hne (congrArg (place state) heq)
  exact ⟨hinside, hpaths, hspots⟩

end Apart

/-! ## Files in place -/

section Filled

variable {σ : Type} [PathMap σ] {directory : String} {files : List SchemaFile} {file : SchemaFile}
  {before state after : σ}

/-- The files are in place with their texts, and every other place is as it was. -/
structure Filled (directory : String) (files : List SchemaFile) (before after : σ) : Prop where
  place_eq : place after = place before
  held : ∀ file ∈ files,
    entry? after (spot before directory file) = some (.file file.render)
  kept : ∀ other, (∀ file ∈ files, other ≠ spot before directory file) →
    entry? after other = entry? before other

theorem filled_nil (directory : String) (state : σ) : Filled directory [] state state where
  place_eq := rfl
  held _ hmem := absurd hmem List.not_mem_nil
  kept _ _ := rfl

/-- **One more write puts one more file in place.** -/
theorem Filled.snoc (h : Filled directory files before state)
    (hput : PutAt state after (filePath directory file) (.file file.render))
    (hnew : spot before directory file ∉ files.map (spot before directory)) :
    Filled directory (files ++ [file]) before after := by
  have hspot : place state (filePath directory file) = spot before directory file := by
    rw [h.place_eq]
    rfl
  have hhere := hput.here
  have helsewhere := hput.elsewhere
  rw [hspot] at hhere helsewhere
  constructor
  · exact hput.place_eq.trans h.place_eq
  · intro written hmem
    rcases List.mem_append.1 hmem with hearlier | hlast
    · have hne : spot before directory written ≠ spot before directory file := by
        intro heq
        exact hnew (List.mem_map.2 ⟨written, hearlier, heq⟩)
      rw [helsewhere _ hne]
      exact h.held written hearlier
    · rw [List.mem_singleton.1 hlast]
      exact hhere
  · intro other hother
    have hne : other ≠ spot before directory file :=
      hother file (List.mem_append_right _ List.mem_cons_self)
    rw [helsewhere other hne]
    apply h.kept
    intro written hmem
    exact hother written (List.mem_append_left _ hmem)

/-- **Writing files to different places puts them all in place.** -/
theorem filled_of_storeAll (hspots : (files.map (spot before directory)).Nodup)
    (h : storeAll directory files before = .ok after) : Filled directory files before after := by
  refine foldlM_history
    (fun past state => (past.map (spot before directory)).Nodup →
      Filled directory past before state) ?_ ?_ h hspots
  · intro _
    exact filled_nil directory before
  · intro past state file next ih hwrite hspots
    rw [List.map_append, List.nodup_append] at hspots
    obtain ⟨hpast, -, hnew⟩ := hspots
    refine (ih hpast).snoc (PathMap.write_put hwrite) ?_
    intro hmem
    exact hnew _ hmem _ List.mem_cons_self rfl

end Filled

/-! ## Runs -/

/-- What a run leaves behind, from the state in which the directory is there. Either all files are
in place, or a first write fails, and the files in front of it are in place and no others. -/
inductive Written {σ : Type} [PathMap σ] (directory : String) (files : List SchemaFile) (made : σ) :
    Except OutputError (List String) → σ → Prop
  | all {after : σ} (hall : storeAll directory files made = .ok after)
      (hfilled : Filled directory files made after) :
    Written directory files made (.ok (files.map (filePath directory))) after
  | stopped {before rest : List SchemaFile} {file : SchemaFile} {after : σ} {cause : StorageError}
      (hsplit : files = before ++ file :: rest)
      (hbefore : storeAll directory before made = .ok after)
      (hwrite : FileSystem.write after (filePath directory file) file.render = .error cause)
      (hfilled : Filled directory before made after)
      (hlater : ∀ later ∈ file :: rest,
        entry? after (spot made directory later) = entry? made (spot made directory later)) :
    Written directory files made (.error (.write (filePath directory file) cause)) after

section Run

variable {σ : Type} [PathMap σ] {directory : String} {files : List SchemaFile} {made after : σ}
  {result : Except OutputError (List String)}

theorem written_of_writesEach (hspots : (files.map (spot made directory)).Nodup)
    (h : WritesEach directory files made result after) :
    Written directory files made result after := by
  cases h with
  | all hall => exact .all hall (filled_of_storeAll hspots hall)
  | @stopped before rest file _ cause hsplit hbefore hwrite =>
    rw [hsplit, List.map_append, List.nodup_append] at hspots
    obtain ⟨hbeforeSpots, -, hapart⟩ := hspots
    have hfilled := filled_of_storeAll hbeforeSpots hbefore
    refine .stopped hsplit hbefore hwrite hfilled ?_
    intro later hlater
    apply hfilled.kept
    intro earlier hearlier heq
    exact hapart _ (List.mem_map_of_mem hearlier) _ (List.mem_map_of_mem hlater) heq.symm

/-- **Writing never overwrites its own output, and fails with an exact beginning of it.** -/
theorem writeFiles_written (state : σ) (hnames : checkStems files = .ok ())
    (hmake : (makeDirectories directory : StateM σ (Except StorageError Unit)).run state =
      (.ok (), made)) :
    ∃ result after,
      (writeFiles directory files : StateM σ (Except OutputError (List String))).run state =
        (result, after) ∧
      Apart directory files made ∧ Written directory files made result after := by
  have hapart := apart_of_checkStems hnames directory made
  cases hrun : (writeFiles directory files :
    StateM σ (Except OutputError (List String))).run state with
  | mk result after =>
    refine ⟨result, after, rfl, hapart, ?_⟩
    cases writes_run hrun with
    | refused hrefused =>
      rw [hnames] at hrefused
      cases hrefused
    | noDirectory _ hfailed =>
      rw [hmake] at hfailed
      cases hfailed
    | files _ hmade heach =>
      rw [hmake] at hmade
      cases hmade
      exact written_of_writesEach hapart.spots heach

end Run

/-- Three files for a directory. -/
def letterFiles : List SchemaFile :=
  ["a", "b", "c"].map fun stem => { stem }

/-- A directory with another one in the place of the second file. -/
def blockedTree : FileTree where
  entries := [(["out"], .directory), (["out", "b.go"], .directory), (["out", "c.go"], .file "")]

/-- The first file is written, and what is in the places of the others stays. -/
theorem blockedTree_written :
    checkStems letterFiles = .ok () ∧
      (makeDirectories "out/" : StateM FileTree (Except StorageError Unit)).run blockedTree =
        (.ok (), blockedTree) ∧
      Apart "out/" letterFiles blockedTree ∧
      ∃ after : FileTree,
        (writeFiles "out/" letterFiles : StateM FileTree (Except OutputError (List String))).run
          blockedTree = (.error (.write "out/b.go" .isDirectory), after) ∧
        Written "out/" letterFiles blockedTree (.error (.write "out/b.go" .isDirectory)) after := by
  have hnames : checkStems letterFiles = .ok () := rfl
  have hmake : (makeDirectories "out/" : StateM FileTree (Except StorageError Unit)).run
      blockedTree = (.ok (), blockedTree) := rfl
  obtain ⟨result, after, hrun, hapart, hwritten⟩ := writeFiles_written blockedTree hnames hmake
  have hresult : result = .error (.write "out/b.go" .isDirectory) :=
    (congrArg Prod.fst hrun).symm.trans rfl
  rw [hresult] at hrun hwritten
  exact ⟨hnames, hmake, hapart, after, hrun, hwritten⟩

end EntSchema.Output
