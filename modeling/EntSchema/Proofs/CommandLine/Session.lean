import EntSchema.CommandLine.Session

/-!
# Steps on the files of a session

A session is a file system and a formatter beside it. A computation that uses files alone does in a
session what it does in its file system (`Session.onFiles`), and this goes for the composite ones as
well: making directories and writing schema files (`writeFiles_eq_onFiles`).
-/

namespace EntSchema.CommandLine

open Storage

namespace Session

variable {σ α β : Type}

theorem run_onFiles {step : StateM σ α} {session : Session σ} {value : α} {files : σ}
    (h : step.run session.files = (value, files)) :
    (onFiles step).run session = (value, { session with files }) := by
  show onFiles step session = _
  rw [onFiles]
  show ((step.run session.files).1, { session with files := (step.run session.files).2 }) = _
  rw [h]

/-! ## Sequences -/

theorem onFiles_pure (value : α) :
    (pure value : StateM (Session σ) α) = onFiles (pure value) :=
  rfl

/-- **A sequence of steps on the files is one step on the files.** -/
theorem onFiles_bind {step : StateM σ α} {next : α → StateM σ β}
    {onSession : StateM (Session σ) α} {nextOnSession : α → StateM (Session σ) β}
    (hstep : onSession = onFiles step)
    (hnext : ∀ value, nextOnSession value = onFiles (next value)) :
    (onSession >>= nextOnSession) = onFiles (step >>= next) := by
  rw [hstep, funext hnext]
  rfl

/-! ## Directories and files -/

variable [FileSystem σ]

theorem settle_eq_onFiles (path : String) (e : StorageError) :
    (settle path e : StateM (Session σ) (Except StorageError Unit)) = onFiles (settle path e) :=
  rfl

theorem makeUnder_eq_onFiles (path : String)
    {makeParent : StateM (Session σ) (Except StorageError Unit)}
    {makeParentOnFiles : StateM σ (Except StorageError Unit)}
    (hparent : makeParent = onFiles makeParentOnFiles) :
    makeUnder path makeParent = onFiles (makeUnder path makeParentOnFiles) := by
  unfold makeUnder
  by_cases hempty : path = ""
  · rw [if_pos hempty, if_pos hempty]
    exact onFiles_pure _
  rw [if_neg hempty, if_neg hempty]
  apply onFiles_bind rfl
  intro result
  cases result with
  | ok => exact onFiles_pure _
  | error cause =>
    cases cause with
    | notFound =>
      apply onFiles_bind hparent
      intro result
      cases result with
      | error cause => exact onFiles_pure _
      | ok =>
        apply onFiles_bind rfl
        intro result
        cases result with
        | ok => exact onFiles_pure _
        | error cause => exact settle_eq_onFiles path cause
    | _ => exact settle_eq_onFiles path _

theorem makeDirectories_eq_onFiles (path : String) :
    (makeDirectories path : StateM (Session σ) (Except StorageError Unit)) =
      onFiles (makeDirectories path) := by
  have hwithin : ∀ (parents : List String) (path : String),
      (makeWithin path parents : StateM (Session σ) (Except StorageError Unit)) =
        onFiles (makeWithin path parents) := by
    intro parents
    induction parents with
    | nil =>
      intro path
      exact makeUnder_eq_onFiles path (onFiles_pure _)
    | cons parent more ih =>
      intro path
      exact makeUnder_eq_onFiles path (ih parent)
  exact hwithin (ancestors path) path

theorem writeEach_eq_onFiles (directory : String) (files : List SchemaFile) :
    (Output.writeEach directory files :
      StateM (Session σ) (Except OutputError (List String))) =
      onFiles (Output.writeEach directory files) := by
  induction files with
  | nil => exact onFiles_pure _
  | cons file rest ih =>
    rw [Output.writeEach, Output.writeEach]
    apply onFiles_bind rfl
    intro result
    cases result with
    | error cause => exact onFiles_pure _
    | ok =>
      apply onFiles_bind ih
      intro result
      cases result with
      | error e => exact onFiles_pure _
      | ok paths => exact onFiles_pure _

/-- **Writing schema files in a session is writing them in its file system.** -/
theorem writeFiles_eq_onFiles (directory : String) (files : List SchemaFile) :
    (Output.writeFiles directory files :
      StateM (Session σ) (Except OutputError (List String))) =
      onFiles (Output.writeFiles directory files) := by
  unfold Output.writeFiles
  cases Output.checkStems files with
  | error e => exact onFiles_pure _
  | ok =>
    apply onFiles_bind (makeDirectories_eq_onFiles directory)
    intro result
    cases result with
    | error cause => exact onFiles_pure _
    | ok => exact writeEach_eq_onFiles directory files

end Session

end EntSchema.CommandLine
