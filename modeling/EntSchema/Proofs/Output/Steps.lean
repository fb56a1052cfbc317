import EntSchema.Output
import EntSchema.Proofs.Fold
import EntSchema.Proofs.Storage.Runs

/-!
# How writing ends

Writing schema files checks their names, makes the directory and writes the files in order, and each
of these steps may be the last. `Writes` lists the ways to end, with the state that is left behind;
`writes_run` says that every run ends in one of them. What holds of a run is shown from this list,
without the computation.
-/

namespace EntSchema.Output

open Fold Storage

variable {σ : Type} [FileSystem σ]

/-- The state after some files were written one after another. -/
def storeAll (directory : String) (files : List SchemaFile) (state : σ) : Except StorageError σ :=
  files.foldlM (fun state file => FileSystem.write state (filePath directory file) file.render)
    state

/-- How writing files in order ends: with all of them, or at the first whose write fails. -/
inductive WritesEach (directory : String) (files : List SchemaFile) (state : σ) :
    Except OutputError (List String) → σ → Prop
  | all {after : σ} (h : storeAll directory files state = .ok after) :
    WritesEach directory files state (.ok (files.map (filePath directory))) after
  | stopped {before rest : List SchemaFile} {file : SchemaFile} {after : σ} {cause : StorageError}
      (hsplit : files = before ++ file :: rest)
      (hbefore : storeAll directory before state = .ok after)
      (hwrite : FileSystem.write after (filePath directory file) file.render = .error cause) :
    WritesEach directory files state (.error (.write (filePath directory file) cause)) after

/-- How writing files ends: at their names, at the directory, or with the files. -/
inductive Writes (directory : String) (files : List SchemaFile) (state : σ) :
    Except OutputError (List String) → σ → Prop
  | refused {e : OutputError} (hnames : checkStems files = .error e) :
    Writes directory files state (.error e) state
  | noDirectory {after : σ} {cause : StorageError} (hnames : checkStems files = .ok ())
      (hmake : (makeDirectories directory : StateM σ (Except StorageError Unit)).run state =
        (.error cause, after)) :
    Writes directory files state (.error (.makeDirectory directory cause)) after
  | files {made after : σ} {result : Except OutputError (List String)}
      (hnames : checkStems files = .ok ())
      (hmake : (makeDirectories directory : StateM σ (Except StorageError Unit)).run state =
        (.ok (), made))
      (heach : WritesEach directory files made result after) :
    Writes directory files state result after

section Run

variable {directory : String} {files : List SchemaFile} {file : SchemaFile} {state next after : σ}

theorem storeAll_cons_of_ok
    (h : FileSystem.write state (filePath directory file) file.render = .ok next) :
    storeAll directory (file :: files) state = storeAll directory files next := by
  rw [storeAll, List.foldlM_cons, h]
  rfl

/-- **Every run of the writes in order ends in one of the ways listed.** -/
theorem writesEach_run {result : Except OutputError (List String)}
    (h : (writeEach directory files : StateM σ (Except OutputError (List String))).run state =
      (result, after)) : WritesEach directory files state result after := by
  induction files generalizing state result after with
  | nil =>
    cases h
    exact .all rfl
  | cons file rest ih =>
    rw [writeEach] at h
    cases hwrite : FileSystem.write state (filePath directory file) file.render with
    | error cause =>
      rw [run_bind_of_run (run_write_of_error hwrite)] at h
      cases h
      exact .stopped (List.nil_append _).symm rfl hwrite
    | ok next =>
      rw [run_bind_of_run (run_write_of_ok hwrite)] at h
      simp only at h
      cases hrest : (writeEach directory rest :
        StateM σ (Except OutputError (List String))).run next with
      | mk later final =>
        rw [run_bind_of_run hrest] at h
        cases ih hrest with
        | all hall =>
          cases h
          rw [← storeAll_cons_of_ok hwrite] at hall
          exact .all hall
        | stopped hsplit hbefore hfailed =>
          cases h
          rw [← storeAll_cons_of_ok hwrite] at hbefore
          exact .stopped (congrArg (file :: ·) hsplit) hbefore hfailed

/-- **Every run of the writing ends in one of the ways listed.** -/
theorem writes_run {result : Except OutputError (List String)}
    (h : (writeFiles directory files : StateM σ (Except OutputError (List String))).run state =
      (result, after)) : Writes directory files state result after := by
  unfold writeFiles at h
  cases hnames : checkStems files with
  | error e =>
    rw [hnames] at h
    cases h
    exact .refused hnames
  | ok =>
    rw [hnames] at h
    simp only at h
    cases hmake : (makeDirectories directory : StateM σ (Except StorageError Unit)).run state with
    | mk outcome made =>
      rw [run_bind_of_run hmake] at h
      cases outcome with
      | error cause =>
        cases h
        exact .noDirectory hnames hmake
      | ok => exact .files hnames hmake (writesEach_run h)

end Run

end EntSchema.Output
