import EntSchema.Proofs.Fold
import EntSchema.Proofs.Storage.PathMap

/-!
# File trees are maps

A file tree resolves a path part by part, and what is there decides whether that succeeds. Where a
path leads when it does is a matter of its parts alone (`placeOf`): each part stays, goes up or
goes down by one name. With these places a file tree is a map (`PathMap`): a new entry is put where
its path leads, and every other place keeps what it had.
-/

namespace EntSchema.FileTree

open Fold Storage

/-! ## Entries -/

/-- Removing what is at one place is not seen at another. -/
theorem lookup_filter_ne {entries : List (List String × Entry)} {place other : List String}
    (h : other ≠ place) : (entries.filter (·.1 ≠ place)).lookup other = entries.lookup other := by
  induction entries with
  | nil => rfl
  | cons first rest ih =>
    obtain ⟨found, entry⟩ := first
    by_cases hfound : found = place
    · have hne : (other == found) = false := by
        rw [beq_eq_false_iff_ne, hfound]
        exact h
      rw [List.filter_cons_of_neg (by simpa using hfound), List.lookup_cons, hne, ih]
    · rw [List.filter_cons_of_pos (by simpa using hfound), List.lookup_cons, List.lookup_cons, ih]

section Put

variable {tree : FileTree} {place other : List String} {entry : Entry}

/-- The root is a directory whatever is put there. -/
theorem entryAt?_put_self (h : place ≠ []) :
    (tree.put place entry).entryAt? place = some entry := by
  have hplace : place.isEmpty = false := by
    rw [List.isEmpty_eq_false_iff]
    exact h
  rw [entryAt?, hplace, put]
  simp

theorem entryAt?_put_of_ne (h : other ≠ place) :
    (tree.put place entry).entryAt? other = tree.entryAt? other := by
  have hne : (other == place) = false := beq_eq_false_iff_ne.2 h
  unfold entryAt? put
  by_cases hother : other.isEmpty = true
  · rw [if_pos hother, if_pos hother]
  · rw [if_neg hother, if_neg hother, List.lookup_cons, hne, lookup_filter_ne h]

end Put

/-! ## Where paths lead -/

/-- Where one part of a path leads. -/
def stepTo (place : List String) (part : String) : List String :=
  if part = "" ∨ part = "." then place
  else if part = ".." then place.dropLast
  else place ++ [part]

/-- Where several parts lead, one after another. -/
def walkTo (place : List String) (parts : List String) : List String :=
  parts.foldl stepTo place

/-- The place that a path leads to. -/
def placeOf (tree : FileTree) (path : String) : List String :=
  walkTo (if isAbsolute path then [] else tree.workingDirectory) (rawParts path)

theorem stepTo_of_isName {name : String} (h : IsName name) (place : List String) :
    stepTo place name = place ++ [name] := by
  have hstays : ¬(name = "" ∨ name = ".") := not_or.2 ⟨h.ne_empty, h.ne_dot⟩
  rw [stepTo, if_neg hstays, if_neg h.ne_dots]

theorem walkTo_append (place front back : List String) :
    walkTo place (front ++ back) = walkTo (walkTo place front) back :=
  List.foldl_append

/-- Parts that name nothing lead nowhere. -/
theorem walkTo_filter (place parts : List String) :
    walkTo place (parts.filter fun part => part ≠ "" ∧ part ≠ ".") = walkTo place parts := by
  induction parts generalizing place with
  | nil => rfl
  | cons part rest ih =>
    by_cases hnamed : part ≠ "" ∧ part ≠ "."
    · rw [List.filter_cons_of_pos (by simpa using hnamed)]
      exact ih (stepTo place part)
    · have hstays : stepTo place part = place := by
        rw [Classical.not_and_iff_not_or_not, Classical.not_not, Classical.not_not] at hnamed
        exact if_pos hnamed
      rw [List.filter_cons_of_neg (by simpa using hnamed), ih]
      show walkTo place rest = walkTo (stepTo place part) rest
      rw [hstays]

theorem walkTo_properParts (place : List String) (path : String) :
    walkTo place (properParts path) = walkTo place (rawParts path) := by
  obtain ⟨first, rest, hparts⟩ : ∃ first rest, rawParts path = first :: rest :=
    List.exists_cons_of_ne_nil (rawParts_ne_nil path)
  rw [properParts_eq hparts, walkTo_append, walkTo_filter, hparts]
  by_cases hfirst : first = ""
  · rw [if_pos hfirst, hfirst]
    rfl
  · rw [if_neg hfirst]
    rfl

/-- **A name leads from its directory to a place inside it.** -/
theorem placeOf_of_nameIn (tree : FileTree) {directory name path : String}
    (h : NameIn directory name path) : tree.placeOf path = tree.placeOf directory ++ [name] := by
  unfold placeOf
  rw [← walkTo_properParts _ path, ← walkTo_properParts _ directory, h.isAbsolute_eq,
    h.properParts_eq, walkTo_append]
  exact stepTo_of_isName h.isName _

/-! ## Resolving -/

section Resolve

variable {tree : FileTree} {place target parts : List String}

theorem enter_eq_ok {part : String} (h : tree.enter place part = .ok target) :
    target = stepTo place part := by
  unfold enter at h
  unfold stepTo
  cases hentry : tree.entryAt? place with
  | none =>
    rw [hentry] at h
    cases h
  | some entry =>
    rw [hentry] at h
    cases entry with
    | file content => cases h
    | directory =>
      simp only at h
      split at h
      case isTrue hstays =>
        cases h
        rw [if_pos hstays]
      case isFalse hstays =>
        rw [if_neg hstays]
        split at h
        case isTrue hup =>
          cases h
          rw [if_pos hup]
        case isFalse hup =>
          rw [if_neg hup]
          split at h
          case isTrue => cases h
          case isFalse =>
            split at h
            case isTrue =>
              cases h
              rfl
            case isFalse => cases h

/-- Parts that can be resolved lead where the path does. -/
theorem enterAll_eq_ok (h : tree.enterAll place parts = .ok target) :
    target = walkTo place parts := by
  unfold enterAll at h
  induction parts generalizing place with
  | nil =>
    cases h
    rfl
  | cons part rest ih =>
    rw [List.foldlM_cons, bind_eq_ok] at h
    obtain ⟨next, hnext, hrest⟩ := h
    rw [ih hrest, enter_eq_ok hnext]
    rfl

theorem start_eq_ok {path : String} (h : tree.start path = .ok (place, parts)) :
    walkTo place parts = tree.placeOf path := by
  unfold start at h
  split at h
  case isTrue => cases h
  split at h
  case isTrue => cases h
  split at h
  case isTrue => cases h
  case isFalse =>
    cases h
    rfl

/-- A new name is put where its parts lead, and never at the root. -/
theorem resolveNew_eq_ok {taken : StorageError}
    (h : tree.resolveNew parts place taken = .ok target) :
    target = walkTo place parts ∧ target ≠ [] := by
  unfold resolveNew at h
  rw [bind_eq_ok] at h
  obtain ⟨parent, hparent, h⟩ := h
  cases hentry : tree.entryAt? parent with
  | none =>
    rw [hentry] at h
    cases h
  | some entry =>
    rw [hentry] at h
    cases entry with
    | file content => cases h
    | directory =>
      simp only at h
      split at h
      case isTrue => cases h
      case isFalse hreserved =>
        split at h
        case isTrue => cases h
        case isFalse =>
          cases h
          rcases List.eq_nil_or_concat parts with rfl | ⟨front, name, rfl⟩
          · exact absurd (.inl rfl) hreserved
          rw [List.concat_eq_append, List.dropLast_concat] at hparent
          rw [List.concat_eq_append, List.getLast?_concat, Option.getD_some] at hreserved ⊢
          rw [not_or, not_or] at hreserved
          have hstep : stepTo parent name = parent ++ [name] := by
            rw [stepTo, if_neg (not_or.2 ⟨hreserved.1, hreserved.2.1⟩), if_neg hreserved.2.2]
          refine ⟨?_, List.append_ne_nil_of_right_ne_nil _ (List.cons_ne_nil _ _)⟩
          rw [walkTo_append, ← enterAll_eq_ok hparent]
          exact hstep.symm

end Resolve

/-- Empty parts lead nowhere. -/
theorem walkTo_of_empty {parts : List String} (h : ∀ part ∈ parts, part = "")
    (place : List String) : walkTo place parts = place := by
  induction parts with
  | nil => rfl
  | cons part rest ih =>
    obtain ⟨hpart, hrest⟩ := List.forall_mem_cons.1 h
    have hstays : stepTo place part = place := if_pos (.inl hpart)
    show walkTo (stepTo place part) rest = place
    rw [hstays, ih hrest]

theorem walkTo_dropSlashes (place parts : List String) :
    walkTo place (dropSlashes parts) = walkTo place parts := by
  obtain ⟨slashes, hsplit, hslashes⟩ : ∃ slashes, parts = dropSlashes parts ++ slashes ∧
      ∀ part ∈ slashes, part = "" := by
    refine ⟨(parts.reverse.takeWhile (· = "")).reverse, ?_, ?_⟩
    · rw [dropSlashes, ← List.reverse_append, List.takeWhile_append_dropWhile,
        List.reverse_reverse]
    · intro part hpart
      have hempty := List.all_eq_true.1 List.all_takeWhile part (List.mem_reverse.1 hpart)
      simpa using hempty
  calc walkTo place (dropSlashes parts)
      = walkTo (walkTo place (dropSlashes parts)) slashes := (walkTo_of_empty hslashes _).symm
    _ = walkTo place (dropSlashes parts ++ slashes) := (walkTo_append _ _ _).symm
    _ = walkTo place parts := by rw [← hsplit]

/-! ## Operations -/

instance : PlacedFileSystem FileTree where
  Place := List String
  place := placeOf
  entry? := entryAt?

section Operations

variable {tree next : FileTree} {path content : String}

theorem putAt_put {entry : Entry} (h : tree.placeOf path ≠ []) :
    PutAt tree (tree.put (tree.placeOf path) entry) path entry where
  place_eq := rfl
  here := entryAt?_put_self h
  elsewhere _ hother := entryAt?_put_of_ne hother

/-- **Writing puts a file where the path leads.** -/
theorem putAt_of_write (h : tree.write path content = .ok next) :
    PutAt tree next path (.file content) := by
  unfold write at h
  rw [bind_eq_ok] at h
  obtain ⟨⟨place, parts⟩, hstart, h⟩ := h
  simp only at h
  rw [bind_eq_ok] at h
  obtain ⟨target, htarget, h⟩ := h
  obtain ⟨hplace, hroot⟩ := resolveNew_eq_ok htarget
  rw [start_eq_ok hstart] at hplace
  subst hplace
  split at h
  · cases h
  · rw [pure_eq_ok] at h
    subst h
    exact putAt_put hroot

/-- **A directory is made where the path leads, when nothing was there.** -/
theorem putAt_of_makeDirectory (h : tree.makeDirectory path = .ok next) :
    PutAt tree next path .directory ∧ tree.entryAt? (tree.placeOf path) = none := by
  unfold makeDirectory at h
  rw [bind_eq_ok] at h
  obtain ⟨⟨place, parts⟩, hstart, h⟩ := h
  simp only at h
  rw [bind_eq_ok] at h
  obtain ⟨target, htarget, h⟩ := h
  obtain ⟨hplace, hroot⟩ := resolveNew_eq_ok htarget
  rw [walkTo_dropSlashes, start_eq_ok hstart] at hplace
  subst hplace
  split at h
  case isTrue => cases h
  case isFalse hnew =>
    rw [pure_eq_ok] at h
    subst h
    rw [Option.not_isSome_iff_eq_none] at hnew
    exact ⟨putAt_put hroot, hnew⟩

end Operations

instance : PathMap FileTree where
  place_inj {tree directory first second path other} hfirst hsecond h := by
    have hplaces : tree.placeOf directory ++ [first] = tree.placeOf directory ++ [second] := by
      rw [← placeOf_of_nameIn tree hfirst, ← placeOf_of_nameIn tree hsecond]
      exact h
    exact List.singleton_inj.1 (List.append_cancel_left hplaces)
  write_put := putAt_of_write
  makeDirectory_put := putAt_of_makeDirectory

end EntSchema.FileTree
