import EntSchema.Storage.Path

/-!
# Names inside directories

A name that is a single part of a path, joined to a directory, gives a path with one part more
(`properParts_joinPath`), whether or not the directory is written with a slash at its end. So the
path is that of a name inside the directory (`nameIn_joinPath`), and different names give different
paths (`NameIn.inj`).
-/

namespace EntSchema.Storage

/-- A name that is one part of a path. -/
structure IsName (name : String) : Prop where
  ne_empty : name ≠ ""
  ne_dot : name ≠ "."
  ne_dots : name ≠ ".."
  no_slash : '/' ∉ name.toList

/-- The path is that of a name inside a directory: it starts where the directory does, and has its
parts with the name behind them. -/
structure NameIn (directory name path : String) : Prop where
  isName : IsName name
  isAbsolute_eq : isAbsolute path = isAbsolute directory
  properParts_eq : properParts path = properParts directory ++ [name]

/-- One path is not that of two names. -/
theorem NameIn.inj {directory first second path : String} (hfirst : NameIn directory first path)
    (hsecond : NameIn directory second path) : first = second := by
  have hparts : properParts directory ++ [first] = properParts directory ++ [second] := by
    rw [← hfirst.properParts_eq, hsecond.properParts_eq]
  exact List.singleton_inj.1 (List.append_cancel_left hparts)

theorem rawParts_ne_nil (path : String) : rawParts path ≠ [] := by
  rw [rawParts, Ne, List.map_eq_nil_iff]
  exact Text.pieces_ne_nil _ _

section Join

variable {name : String}

theorem rawParts_of_no_slash (h : '/' ∉ name.toList) : rawParts name = [name] := by
  have hplain : ∀ c ∈ name.toList, (c == '/') = false := by
    intro c hc
    rw [beq_eq_false_iff_ne]
    intro hslash
    exact h (hslash ▸ hc)
  rw [rawParts, Text.pieces_eq_singleton hplain, List.map_singleton, String.ofList_toList]

theorem rawParts_slash {path front : String} {back : List Char}
    (h : path.toList = front.toList ++ '/' :: back) :
    rawParts path = rawParts front ++ rawParts (.ofList back) := by
  rw [rawParts, h, Text.pieces_append_cons rfl, List.map_append, rawParts, rawParts,
    String.toList_ofList]

/-- **Joining puts the name behind the parts of the directory.** A directory that ends in a slash
has an empty part at its end, which is given up. -/
theorem rawParts_joinPath (directory : String) (h : '/' ∉ name.toList) :
    ∃ front, rawParts (joinPath directory name) = front ++ [name] ∧
      (rawParts directory = front ∨ rawParts directory = front ++ [""]) := by
  have hname := rawParts_of_no_slash h
  unfold joinPath
  by_cases hempty : directory = ""
  · rw [if_pos hempty]
    exact ⟨[], hname, .inr (by rw [hempty]; decide)⟩
  rw [if_neg hempty]
  by_cases hslash : directory.toList.getLast? = some '/'
  · rw [if_pos hslash]
    obtain ⟨front, hfront⟩ := List.getLast?_eq_some_iff.1 hslash
    have hdirectory : directory.toList = (String.ofList front).toList ++ '/' :: [] := by
      rw [String.toList_ofList, hfront]
    have hjoined : (directory ++ name).toList =
        (String.ofList front).toList ++ '/' :: name.toList := by
      rw [String.toList_append, hdirectory, List.append_assoc, List.cons_append, List.nil_append]
    refine ⟨rawParts (.ofList front), ?_, .inr ?_⟩
    · rw [rawParts_slash hjoined, String.ofList_toList, hname]
    · rw [rawParts_slash hdirectory]
      rfl
  · rw [if_neg hslash]
    have hjoined : (directory ++ "/" ++ name).toList = directory.toList ++ '/' :: name.toList := by
      rw [String.toList_append, String.toList_append, List.append_assoc]
      rfl
    refine ⟨rawParts directory, ?_, .inl rfl⟩
    rw [rawParts_slash hjoined, String.ofList_toList, hname]

theorem isAbsolute_joinPath (directory : String) (h : '/' ∉ name.toList) :
    isAbsolute (joinPath directory name) = isAbsolute directory := by
  have happend : ∀ text : String, directory ≠ "" →
      isAbsolute (directory ++ text) = isAbsolute directory := by
    intro text hne
    obtain ⟨first, rest, hlist⟩ : ∃ first rest, directory.toList = first :: rest :=
      List.exists_cons_of_ne_nil (mt String.toList_eq_nil_iff.1 hne)
    rw [isAbsolute, isAbsolute, String.toList_append, hlist]
    rfl
  unfold joinPath
  by_cases hempty : directory = ""
  · rw [if_pos hempty, hempty, isAbsolute, isAbsolute]
    cases hlist : name.toList with
    | nil => rfl
    | cons c rest =>
      have hc : c ≠ '/' := by
        intro hslash
        rw [hlist, hslash] at h
        exact h List.mem_cons_self
      simpa using hc
  rw [if_neg hempty]
  split
  · exact happend name hempty
  · rw [String.append_assoc]
    exact happend _ hempty

/-- The parts of a path without those that name nothing, other than a first one. -/
theorem properParts_eq {first : String} {rest : List String} {path : String}
    (h : rawParts path = first :: rest) :
    properParts path = (if first = "" then [] else [first]) ++
      rest.filter fun part => part ≠ "" ∧ part ≠ "." := by
  unfold properParts
  rw [h]
  simp only
  split
  · rfl
  · rfl

/-- **A name inside a directory is one part behind those of the directory.** -/
theorem properParts_joinPath (directory : String) (h : IsName name) :
    properParts (joinPath directory name) = properParts directory ++ [name] := by
  obtain ⟨front, hjoined, hdirectory⟩ := rawParts_joinPath directory h.no_slash
  cases front with
  | nil =>
    have hparts : rawParts directory = [""] :=
      hdirectory.resolve_left (rawParts_ne_nil directory)
    rw [properParts_eq hjoined, properParts_eq hparts, if_neg h.ne_empty]
    rfl
  | cons first rest =>
    have hname : [name].filter (fun part => part ≠ "" ∧ part ≠ ".") = [name] := by
      simp [h.ne_empty, h.ne_dot]
    have hempty : [""].filter (fun part => part ≠ "" ∧ part ≠ ".") = [] := by decide
    rw [List.cons_append] at hjoined hdirectory
    rw [properParts_eq hjoined, List.filter_append, hname, ← List.append_assoc]
    rcases hdirectory with hparts | hparts
    · rw [properParts_eq hparts]
    · rw [properParts_eq hparts, List.filter_append, hempty, List.append_nil]

theorem nameIn_joinPath (directory : String) (h : IsName name) :
    NameIn directory name (joinPath directory name) where
  isName := h
  isAbsolute_eq := isAbsolute_joinPath directory h.no_slash
  properParts_eq := properParts_joinPath directory h

end Join

end EntSchema.Storage
