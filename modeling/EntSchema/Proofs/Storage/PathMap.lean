import EntSchema.Proofs.Storage.Join
import EntSchema.Proofs.Storage.Runs
import EntSchema.Storage.Tree

/-!
# File systems as maps

A path leads to a place, and at a place there is nothing, a directory or a file. Several paths may
lead to one place, but two names in one directory never do. A file system is a map in this sense
(`PathMap`) when an operation that succeeds puts one entry at the place of its path, and leaves
every other place, and where paths lead, as they were.

The laws say what an operation does when it succeeds, not when that is: a map may refuse whatever
it likes, and then it does not change.
-/

namespace EntSchema

/-- A file system with a view of its places. -/
class PlacedFileSystem (σ : Type) extends FileSystem σ where
  Place : Type
  /-- The place that a path leads to. -/
  place : σ → String → Place
  /-- What is at a place, if anything. -/
  entry? : σ → Place → Option Entry

open PlacedFileSystem

/-- The states differ by one entry, at the place that a path leads to. -/
structure PutAt {σ : Type} [PlacedFileSystem σ] (before after : σ) (path : String)
    (entry : Entry) : Prop where
  place_eq : place after = place before
  here : entry? after (place before path) = some entry
  elsewhere : ∀ other, other ≠ place before path → entry? after other = entry? before other

/-- A file system that is a map. -/
class PathMap (σ : Type) extends PlacedFileSystem σ where
  /-- Two names in one directory are two places. -/
  place_inj : ∀ {state : σ} {directory first second path other : String},
    Storage.NameIn directory first path → Storage.NameIn directory second other →
    place state path = place state other → first = second
  /-- Writing puts a file where the path leads. -/
  write_put : ∀ {state next : σ} {path content : String},
    FileSystem.write state path content = .ok next → PutAt state next path (.file content)
  /-- A directory is made where nothing was. -/
  makeDirectory_put : ∀ {state next : σ} {path : String},
    FileSystem.makeDirectory state path = .ok next →
      PutAt state next path .directory ∧ entry? state (place state path) = none

namespace PathMap

/-- The content of the file at a place, if there is one. -/
def fileAt? {σ : Type} [PlacedFileSystem σ] (state : σ) (spot : Place σ) : Option String :=
  match entry? state spot with
  | some (.file content) => some content
  | _ => none

/-- The states differ by directories that were made where nothing was. -/
structure MoreDirectories {σ : Type} [PlacedFileSystem σ] (before after : σ) : Prop where
  place_eq : place after = place before
  kept : ∀ spot, entry? before spot ≠ none → entry? after spot = entry? before spot
  made : ∀ spot, entry? before spot = none →
    entry? after spot = none ∨ entry? after spot = some .directory

namespace MoreDirectories

section Relation

variable {σ : Type} [PlacedFileSystem σ] {first second third : σ}

theorem refl (state : σ) : MoreDirectories state state where
  place_eq := rfl
  kept _ _ := rfl
  made _ h := .inl h

theorem trans (h : MoreDirectories first second) (h' : MoreDirectories second third) :
    MoreDirectories first third where
  place_eq := h'.place_eq.trans h.place_eq
  kept spot hspot := by
    have hsecond := h.kept spot hspot
    rw [h'.kept spot (hsecond ▸ hspot), hsecond]
  made spot hspot := by
    rcases h.made spot hspot with hnone | hdirectory
    · exact h'.made spot hnone
    · have hsome : entry? second spot ≠ none := by
        rw [hdirectory]
        exact Option.some_ne_none _
      rw [h'.kept spot hsome]
      exact .inr hdirectory

/-- No file is made, changed or removed. -/
theorem fileAt?_eq (h : MoreDirectories first second) (spot : Place σ) :
    fileAt? second spot = fileAt? first spot := by
  unfold fileAt?
  by_cases hspot : entry? first spot = none
  · rcases h.made spot hspot with hnone | hdirectory
    · rw [hnone, hspot]
    · rw [hdirectory, hspot]
  · rw [h.kept spot hspot]

end Relation

theorem of_makeDirectory {σ : Type} [PathMap σ] {state next : σ} {path : String}
    (h : FileSystem.makeDirectory state path = .ok next) : MoreDirectories state next := by
  obtain ⟨hput, hnew⟩ := makeDirectory_put h
  have helsewhere : ∀ spot, spot ≠ place state path → entry? next spot = entry? state spot :=
    hput.elsewhere
  constructor
  · exact hput.place_eq
  · intro spot hspot
    apply helsewhere
    intro heq
    exact hspot (heq ▸ hnew)
  · intro spot hspot
    by_cases heq : spot = place state path
    · rw [heq]
      exact .inr hput.here
    · rw [helsewhere spot heq]
      exact .inl hspot

end MoreDirectories

/-- **Making a directory with its ancestors adds directories, and nothing else**, also when it
fails. -/
theorem makeDirectories_adds {σ : Type} [PathMap σ] (path : String) (state : σ) :
    MoreDirectories state
      ((Storage.makeDirectories path : StateM σ (Except StorageError Unit)).run state).2 :=
  Storage.keeps_makeDirectories MoreDirectories.refl
    (fun _ _ _ h h' => h.trans h') (fun _ _ _ h => .of_makeDirectory h) path state

end PathMap

end EntSchema
