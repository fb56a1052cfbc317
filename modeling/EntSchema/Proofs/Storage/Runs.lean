import EntSchema.Storage.Path

/-!
# Runs over a file system

A computation over the state of a file system is a chain of its operations. What it does is read
off its run from a state: a run of a sequence is a run of its parts (`run_bind_of_run`), and an
operation either changes the state or fails and leaves it. What every step keeps, a run keeps
(`Keeps.bind`).
-/

namespace EntSchema.Storage

variable {σ α β : Type}

/-- The second part of a sequence runs from the state, and on the value, that the first led to. -/
theorem run_bind_of_run {action : StateM σ α} {next : α → StateM σ β} {state after : σ} {value : α}
    (h : action.run state = (value, after)) :
    (action >>= next).run state = (next value).run after := by
  rw [StateT.run_bind, h]
  rfl

/-- A run with a value leads to some state. -/
theorem exists_run_of_value {action : StateM σ α} {state : σ} {value : α}
    (h : (action.run state).1 = value) : ∃ after, action.run state = (value, after) :=
  ⟨(action.run state).2, Prod.ext h rfl⟩

/-! ## Operations -/

section Operations

variable {path content : String} {state next : σ} {cause : StorageError}

theorem run_change_of_ok {step : σ → Except StorageError σ} (h : step state = .ok next) :
    (FileSystem.change step).run state = (.ok (), next) := by
  show FileSystem.change step state = _
  rw [FileSystem.change, h]

theorem run_change_of_error {step : σ → Except StorageError σ} (h : step state = .error cause) :
    (FileSystem.change step).run state = (.error cause, state) := by
  show FileSystem.change step state = _
  rw [FileSystem.change, h]

variable [FileSystem σ]

theorem run_write_of_ok (h : FileSystem.write state path content = .ok next) :
    (write path content : StateM σ (Except StorageError Unit)).run state = (.ok (), next) :=
  run_change_of_ok h

theorem run_write_of_error (h : FileSystem.write state path content = .error cause) :
    (write path content : StateM σ (Except StorageError Unit)).run state = (.error cause, state) :=
  run_change_of_error h

end Operations

/-! ## What a run keeps -/

/-- Every run of the computation leads from a state to one that `R` relates it to. -/
def Keeps (R : σ → σ → Prop) (action : StateM σ α) : Prop :=
  ∀ state, R state (action.run state).2

section Keeps

variable {R : σ → σ → Prop} (hrefl : ∀ state, R state state)
  (htrans : ∀ first second third, R first second → R second third → R first third)

include hrefl

theorem keeps_pure (value : α) : Keeps R (pure value : StateM σ α) :=
  hrefl

theorem keeps_change {step : σ → Except StorageError σ}
    (hstep : ∀ state next, step state = .ok next → R state next) :
    Keeps R (FileSystem.change step) := by
  intro state
  cases h : step state with
  | ok next =>
    rw [run_change_of_ok h]
    exact hstep state next h
  | error cause =>
    rw [run_change_of_error h]
    exact hrefl state

omit hrefl in
include htrans in
/-- **What both parts of a sequence keep, the sequence keeps.** -/
theorem Keeps.bind {action : StateM σ α} {next : α → StateM σ β} (haction : Keeps R action)
    (hnext : ∀ value, Keeps R (next value)) : Keeps R (action >>= next) := by
  intro state
  have hfirst : R state (action.run state).2 := haction state
  have hsecond := hnext (action.run state).1 (action.run state).2
  exact htrans _ _ _ hfirst hsecond

/-! ## Making directories -/

variable [FileSystem σ]

theorem keeps_settle (path : String) (e : StorageError) :
    Keeps R (settle path e : StateM σ (Except StorageError Unit)) := by
  intro state
  exact hrefl state

include htrans

variable
  (hmake : ∀ state next path, FileSystem.makeDirectory state path = .ok next → R state next)

include hmake

theorem keeps_makeUnder (path : String) {makeParent : StateM σ (Except StorageError Unit)}
    (hparent : Keeps R makeParent) :
    Keeps R (makeUnder path makeParent) := by
  have hpath : Keeps R (makeDirectory path : StateM σ (Except StorageError Unit)) :=
    keeps_change hrefl fun state next h => hmake state next path h
  unfold makeUnder
  split
  · exact keeps_pure hrefl _
  apply Keeps.bind htrans hpath
  intro result
  split
  · exact keeps_pure hrefl _
  · apply Keeps.bind htrans hparent
    intro result
    split
    · exact keeps_pure hrefl _
    · apply Keeps.bind htrans hpath
      intro result
      split
      · exact keeps_pure hrefl _
      · exact keeps_settle hrefl path _
  · exact keeps_settle hrefl path _

/-- **What making one directory keeps, making it with all its ancestors keeps.** -/
theorem keeps_makeDirectories (path : String) :
    Keeps R (makeDirectories path : StateM σ (Except StorageError Unit)) := by
  have hwithin : ∀ (parents : List String) (path : String),
      Keeps R (makeWithin path parents : StateM σ (Except StorageError Unit)) := by
    intro parents
    induction parents with
    | nil =>
      intro path
      exact keeps_makeUnder hrefl htrans hmake path (keeps_pure hrefl _)
    | cons parent more ih =>
      intro path
      exact keeps_makeUnder hrefl htrans hmake path (ih parent)
  exact hwithin (ancestors path) path

end Keeps

end EntSchema.Storage
