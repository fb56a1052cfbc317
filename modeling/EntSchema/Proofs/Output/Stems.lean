import EntSchema.Proofs.Output.Steps
import EntSchema.Storage.Tree

/-!
# Names that stop the writing

Stems come from names of tables and can hold any character, so they are all checked before a
directory is made or a file written. What is wrong with a single stem is said here from its
characters (`HasDefect`), and what is wrong with a stem among others from those in front of it
(`Refused`). The check stops at the first stem that is refused, and then nothing has been touched.

## Main results

* `stemDefect?_eq_some` — the defect that is reported of a stem is the one that it has.
* `checkStemsAfter_eq_ok` — the check accepts exactly the lists of distinct names of files.
* `writeFiles_refusal_iff` — writing refuses a name exactly when a stem offends, names the first
  that does, and leaves every file system as it was.
-/

namespace EntSchema.Output

/-! ## A single stem -/

/-- What is wrong with a stem. One with a separator may hold control characters as well. -/
inductive HasDefect (stem : String) : StemDefect → Prop
  | empty (h : stem = "") : HasDefect stem .empty
  | directoryReference (h : stem = "." ∨ stem = "..") : HasDefect stem .directoryReference
  | pathSeparator (h : ∃ c ∈ stem.toList, c = '/' ∨ c = '\\') : HasDefect stem .pathSeparator
  | controlCharacter (hclean : ¬∃ c ∈ stem.toList, c = '/' ∨ c = '\\')
      (h : ∃ c ∈ stem.toList, Unicode.isControl c = true) : HasDefect stem .controlCharacter

/-- The stem is not the name of one file inside a directory. -/
def Misnamed (stem : String) : Prop :=
  stem = "" ∨ stem = "." ∨ stem = ".." ∨
    ∃ c ∈ stem.toList, c = '/' ∨ c = '\\' ∨ Unicode.isControl c = true

section Single

variable {stem : String}

theorem isEmpty_toList_iff : stem.toList.isEmpty = true ↔ stem = "" := by
  rw [List.isEmpty_iff, String.toList_eq_nil_iff]

theorem any_separator_iff :
    (stem.toList.any fun c => c == '/' || c == '\\') = true ↔
      ∃ c ∈ stem.toList, c = '/' ∨ c = '\\' := by
  simp only [List.any_eq_true, Bool.or_eq_true, beq_iff_eq]

theorem hasDefect_of_stemDefect? {defect : StemDefect} (h : stemDefect? stem = some defect) :
    HasDefect stem defect := by
  unfold stemDefect? at h
  simp only at h
  split at h
  case isTrue hempty =>
    cases h
    exact .empty (isEmpty_toList_iff.1 hempty)
  split at h
  case isTrue hreference =>
    cases h
    exact .directoryReference hreference
  split at h
  case isTrue hseparator =>
    cases h
    exact .pathSeparator (any_separator_iff.1 hseparator)
  case isFalse hclean =>
    rw [any_separator_iff] at hclean
    split at h
    case isTrue hcontrol =>
      cases h
      exact .controlCharacter hclean (List.any_eq_true.1 hcontrol)
    case isFalse => cases h

/-- A stem with a separator or a control character is neither empty nor a directory reference. -/
theorem not_reference_of_mem {c : Char} (hmem : c ∈ stem.toList)
    (hc : c = '/' ∨ c = '\\' ∨ Unicode.isControl c = true) :
    ¬stem.toList.isEmpty = true ∧ ¬(stem = "." ∨ stem = "..") := by
  constructor
  · intro hempty
    rw [List.isEmpty_iff] at hempty
    rw [hempty] at hmem
    cases hmem
  · intro hreference
    have hdot : c = '.' := by
      rcases hreference with rfl | rfl <;> simpa using hmem
    rw [hdot] at hc
    exact absurd hc (by decide)

theorem HasDefect.stemDefect?_eq {defect : StemDefect} (h : HasDefect stem defect) :
    stemDefect? stem = some defect := by
  unfold stemDefect?
  simp only
  cases h with
  | empty h => rw [if_pos (isEmpty_toList_iff.2 h)]
  | directoryReference h =>
    have hempty : ¬stem.toList.isEmpty = true := by
      rcases h with rfl | rfl <;> decide
    rw [if_neg hempty, if_pos h]
  | pathSeparator h =>
    obtain ⟨c, hmem, hc⟩ := h
    obtain ⟨hempty, hreference⟩ := not_reference_of_mem hmem (hc.imp_right .inl)
    have hseparator := any_separator_iff.2 ⟨c, hmem, hc⟩
    rw [if_neg hempty, if_neg hreference, if_pos hseparator]
  | controlCharacter hclean h =>
    obtain ⟨c, hmem, hc⟩ := h
    obtain ⟨hempty, hreference⟩ := not_reference_of_mem hmem (.inr (.inr hc))
    have hseparator := mt any_separator_iff.1 hclean
    have hcontrol : stem.toList.any Unicode.isControl = true :=
      List.any_eq_true.2 ⟨c, hmem, hc⟩
    rw [if_neg hempty, if_neg hreference, if_neg hseparator, if_pos hcontrol]

/-- **The defect that is reported of a stem is the one that it has.** -/
theorem stemDefect?_eq_some {defect : StemDefect} :
    stemDefect? stem = some defect ↔ HasDefect stem defect :=
  ⟨hasDefect_of_stemDefect?, HasDefect.stemDefect?_eq⟩

theorem misnamed_iff : Misnamed stem ↔ ∃ defect, HasDefect stem defect := by
  constructor
  · rintro (hempty | hdot | hdots | ⟨c, hmem, hc⟩)
    · exact ⟨_, .empty hempty⟩
    · exact ⟨_, .directoryReference (.inl hdot)⟩
    · exact ⟨_, .directoryReference (.inr hdots)⟩
    · by_cases hseparator : ∃ c ∈ stem.toList, c = '/' ∨ c = '\\'
      · exact ⟨_, .pathSeparator hseparator⟩
      · have hcontrol : Unicode.isControl c = true := by
          rcases hc with hslash | hbackslash | hcontrol
          · exact absurd ⟨c, hmem, .inl hslash⟩ hseparator
          · exact absurd ⟨c, hmem, .inr hbackslash⟩ hseparator
          · exact hcontrol
        exact ⟨_, .controlCharacter hseparator ⟨c, hmem, hcontrol⟩⟩
  · rintro ⟨defect, h⟩
    cases h with
    | empty h => exact .inl h
    | directoryReference h => exact .inr (h.imp_right .inl)
    | pathSeparator h =>
      obtain ⟨c, hmem, hc⟩ := h
      exact .inr (.inr (.inr ⟨c, hmem, hc.imp_right .inl⟩))
    | controlCharacter hclean h =>
      obtain ⟨c, hmem, hc⟩ := h
      exact .inr (.inr (.inr ⟨c, hmem, .inr (.inr hc)⟩))

theorem stemDefect?_eq_none : stemDefect? stem = none ↔ ¬Misnamed stem := by
  rw [misnamed_iff, Option.eq_none_iff_forall_ne_some]
  constructor
  · rintro h ⟨defect, hdefect⟩
    exact h defect hdefect.stemDefect?_eq
  · intro h defect hdefect
    exact h ⟨defect, hasDefect_of_stemDefect? hdefect⟩

end Single

/-! ## A stem among others -/

/-- Why a stem is refused behind some others. That another one has the name counts only for a stem
that could be the name of a file. -/
inductive Refused (earlier : List String) (stem : String) : OutputError → Prop
  | misnamed {defect : StemDefect} (h : HasDefect stem defect) :
    Refused earlier stem (.invalidName stem defect)
  | taken (hname : ¬Misnamed stem) (h : stem ∈ earlier) :
    Refused earlier stem (.duplicateName stem)

/-- A stem offends behind some others: it is no name of a file, or it is the name of an earlier
one. -/
def Offends (earlier : List String) (stem : String) : Prop :=
  Misnamed stem ∨ stem ∈ earlier

section Check

variable {seen stems before after : List String} {stem : String} {e : OutputError}

theorem offends_iff : Offends seen stem ↔ ∃ e, Refused seen stem e := by
  constructor
  · intro h
    by_cases hname : Misnamed stem
    · obtain ⟨defect, hdefect⟩ := misnamed_iff.1 hname
      exact ⟨_, .misnamed hdefect⟩
    · exact ⟨_, .taken hname (h.resolve_left hname)⟩
  · rintro ⟨e, h⟩
    cases h with
    | misnamed h => exact .inl (misnamed_iff.2 ⟨_, h⟩)
    | taken hname h => exact .inr h

theorem checkStemsAfter_cons_of_refused (h : Refused seen stem e) :
    checkStemsAfter seen (stem :: stems) = .error e := by
  unfold checkStemsAfter
  cases h with
  | misnamed h => rw [h.stemDefect?_eq]
  | taken hname h =>
    rw [stemDefect?_eq_none.2 hname]
    exact if_pos (List.contains_iff_mem.2 h)

theorem checkStemsAfter_cons_of_accepted (h : ¬Offends seen stem) :
    checkStemsAfter seen (stem :: stems) = checkStemsAfter (stem :: seen) stems := by
  have hname : ¬Misnamed stem := fun hmisnamed => h (.inl hmisnamed)
  have hnew : ¬seen.contains stem = true := fun htaken => h (.inr (List.contains_iff_mem.1 htaken))
  rw [checkStemsAfter, stemDefect?_eq_none.2 hname]
  exact if_neg hnew

/-- No stem of the list offends behind those in front of it and behind `seen`. -/
def Inoffensive (seen stems : List String) : Prop :=
  ∀ before stem after, stems = before ++ stem :: after → ¬Offends (before ++ seen) stem

theorem offends_congr {other : List String} (h : ∀ name, name ∈ seen ↔ name ∈ other) :
    Offends seen stem ↔ Offends other stem :=
  or_congr_right (h stem)

theorem refused_congr {other : List String} (h : ∀ name, name ∈ seen ↔ name ∈ other) :
    Refused seen stem e ↔ Refused other stem e := by
  constructor
  · intro hrefused
    cases hrefused with
    | misnamed hdefect => exact .misnamed hdefect
    | taken hname htaken => exact .taken hname ((h stem).1 htaken)
  · intro hrefused
    cases hrefused with
    | misnamed hdefect => exact .misnamed hdefect
    | taken hname htaken => exact .taken hname ((h stem).2 htaken)

/-- A stem that was read may be counted to those in front or to those seen before. -/
theorem mem_read_iff (first name : String) :
    name ∈ before ++ first :: seen ↔ name ∈ first :: before ++ seen := by
  simp only [List.mem_append, List.mem_cons, or_left_comm, or_assoc]

theorem inoffensive_nil : Inoffensive seen [] := by
  intro before stem after hsplit
  simp at hsplit

theorem inoffensive_cons :
    Inoffensive seen (stem :: stems) ↔ ¬Offends seen stem ∧ Inoffensive (stem :: seen) stems := by
  constructor
  · intro h
    constructor
    · exact h [] stem stems rfl
    · intro before later after hsplit
      rw [offends_congr (mem_read_iff stem)]
      exact h (stem :: before) later after (congrArg (stem :: ·) hsplit)
  · rintro ⟨hfirst, hrest⟩ before later after hsplit
    cases before with
    | nil =>
      cases hsplit
      exact hfirst
    | cons first before =>
      cases hsplit
      rw [← offends_congr (mem_read_iff stem)]
      exact hrest before later after rfl

/-- No stem offends exactly when all are names of files, new ones, and no two are the same. -/
theorem inoffensive_iff :
    Inoffensive seen stems ↔ (∀ stem ∈ stems, ¬Offends seen stem) ∧ stems.Nodup := by
  induction stems generalizing seen with
  | nil =>
    exact ⟨fun _ => ⟨fun stem hmem => absurd hmem List.not_mem_nil, List.nodup_nil⟩,
      fun _ => inoffensive_nil⟩
  | cons first rest ih =>
    have hbehind : ∀ stem, ¬Offends (first :: seen) stem ↔ ¬Offends seen stem ∧ stem ≠ first := by
      intro stem
      rw [Offends, Offends, List.mem_cons, not_or, not_or, not_or, and_assoc]
      exact and_congr_right fun _ => and_comm
    rw [inoffensive_cons, ih, List.forall_mem_cons, List.nodup_cons]
    constructor
    · rintro ⟨hfirst, hrest, hnodup⟩
      have hnew : first ∉ rest := fun hmem => ((hbehind first).1 (hrest first hmem)).2 rfl
      exact ⟨⟨hfirst, fun stem hmem => ((hbehind stem).1 (hrest stem hmem)).1⟩, hnew, hnodup⟩
    · rintro ⟨⟨hfirst, hrest⟩, hnew, hnodup⟩
      refine ⟨hfirst, ?_, hnodup⟩
      intro stem hmem
      have hne : stem ≠ first := fun heq => hnew (heq ▸ hmem)
      exact (hbehind stem).2 ⟨hrest stem hmem, hne⟩

/-- The check accepts the stems among which none offends. -/
theorem checkStemsAfter_eq_ok :
    checkStemsAfter seen stems = .ok () ↔ Inoffensive seen stems := by
  induction stems generalizing seen with
  | nil =>
    exact ⟨fun _ => inoffensive_nil, fun _ => rfl⟩
  | cons stem rest ih =>
    rw [inoffensive_cons]
    by_cases hoffends : Offends seen stem
    · obtain ⟨e, hrefused⟩ := offends_iff.1 hoffends
      rw [checkStemsAfter_cons_of_refused hrefused]
      constructor
      · intro h
        cases h
      · intro h
        exact absurd hoffends h.1
    · rw [checkStemsAfter_cons_of_accepted hoffends, ih, and_iff_right hoffends]

/-- The stems are refused at one of them: none in front of it offends, and it does. -/
structure RefusedAt (seen stems before : List String) (stem : String) (e : OutputError) :
    Prop where
  split : ∃ after, stems = before ++ stem :: after
  inoffensive : Inoffensive seen before
  refused : Refused (before ++ seen) stem e

/-- **The check reports the first stem that offends.** -/
theorem checkStemsAfter_eq_error :
    checkStemsAfter seen stems = .error e ↔
      ∃ before stem, RefusedAt seen stems before stem e := by
  constructor
  · intro h
    induction stems generalizing seen with
    | nil => cases h
    | cons first rest ih =>
      by_cases hoffends : Offends seen first
      · obtain ⟨cause, hrefused⟩ := offends_iff.1 hoffends
        rw [checkStemsAfter_cons_of_refused hrefused] at h
        cases h
        exact ⟨[], first, ⟨rest, rfl⟩, inoffensive_nil, hrefused⟩
      · rw [checkStemsAfter_cons_of_accepted hoffends] at h
        obtain ⟨before, stem, hat⟩ := ih h
        obtain ⟨after, hsplit⟩ := hat.split
        refine ⟨first :: before, stem, ⟨after, congrArg (first :: ·) hsplit⟩, ?_, ?_⟩
        · exact inoffensive_cons.2 ⟨hoffends, hat.inoffensive⟩
        · exact (refused_congr (mem_read_iff first)).1 hat.refused
  · rintro ⟨before, stem, ⟨after, rfl⟩, hinoffensive, hrefused⟩
    induction before generalizing seen with
    | nil => exact checkStemsAfter_cons_of_refused hrefused
    | cons first rest ih =>
      obtain ⟨hfirst, hrest⟩ := inoffensive_cons.1 hinoffensive
      rw [List.cons_append, checkStemsAfter_cons_of_accepted hfirst]
      exact ih hrest ((refused_congr (mem_read_iff first)).2 hrefused)

end Check

/-! ## Files and their names -/

section Files

variable {files before : List SchemaFile} {e : OutputError}

/-- Some file of the list offends behind those in front of it. -/
def SomeOffends (files : List SchemaFile) : Prop :=
  ∃ before file after, files = before ++ file :: after ∧
    Offends (before.map (·.stem)) file.stem

/-- The first file of the list that offends is refused for this reason. -/
def FirstRefused (files : List SchemaFile) (e : OutputError) : Prop :=
  ∃ before file after, files = before ++ file :: after ∧ ¬SomeOffends before ∧
    Refused (before.map (·.stem)) file.stem e

theorem inoffensive_map_iff : Inoffensive [] (files.map (·.stem)) ↔ ¬SomeOffends files := by
  constructor
  · rintro h ⟨before, file, after, rfl, hoffends⟩
    refine h (before.map (·.stem)) file.stem (after.map (·.stem)) ?_ ?_
    · rw [List.map_append, List.map_cons]
    · rwa [List.append_nil]
  · intro h front stem back hsplit hoffends
    obtain ⟨before, rest, rfl, rfl, hrest⟩ := List.map_eq_append_iff.1 hsplit
    obtain ⟨file, after, rfl, rfl, -⟩ := List.map_eq_cons_iff.1 hrest
    rw [List.append_nil] at hoffends
    exact h ⟨before, file, after, rfl, hoffends⟩

theorem checkStems_eq_ok : checkStems files = .ok () ↔ ¬SomeOffends files := by
  rw [checkStems, checkStemsAfter_eq_ok, inoffensive_map_iff]

/-- **The check of the names reports the first file that offends.** -/
theorem checkStems_eq_error : checkStems files = .error e ↔ FirstRefused files e := by
  rw [checkStems, checkStemsAfter_eq_error]
  constructor
  · rintro ⟨front, stem, ⟨back, hsplit⟩, hinoffensive, hrefused⟩
    obtain ⟨before, rest, rfl, rfl, hrest⟩ := List.map_eq_append_iff.1 hsplit
    obtain ⟨file, after, rfl, rfl, -⟩ := List.map_eq_cons_iff.1 hrest
    rw [List.append_nil] at hrefused
    exact ⟨before, file, after, rfl, inoffensive_map_iff.1 hinoffensive, hrefused⟩
  · rintro ⟨before, file, after, rfl, hfirst, hrefused⟩
    refine ⟨before.map (·.stem), file.stem, ⟨after.map (·.stem), ?_⟩, ?_, ?_⟩
    · rw [List.map_append, List.map_cons]
    · exact inoffensive_map_iff.2 hfirst
    · rwa [List.append_nil]

end Files

/-! ## Writing files whose names are refused -/

/-- The error is about the name of a file. -/
inductive OfName : OutputError → Prop
  | invalid {stem : String} {defect : StemDefect} : OfName (.invalidName stem defect)
  | duplicate {stem : String} : OfName (.duplicateName stem)

theorem Refused.ofName {seen : List String} {stem : String} {e : OutputError}
    (h : Refused seen stem e) : OfName e := by
  cases h with
  | misnamed h => exact .invalid
  | taken hname h => exact .duplicate

section Writing

variable {σ : Type} [FileSystem σ] {directory : String} {files : List SchemaFile} {state after : σ}
  {e : OutputError}

/-- Where the names are refused, writing ends without a step of the file system. -/
theorem run_of_refused (h : checkStems files = .error e) :
    (writeFiles directory files : StateM σ (Except OutputError (List String))).run state =
      (.error e, state) := by
  unfold writeFiles
  rw [h]
  rfl

theorem refused_of_run (hname : OfName e)
    (h : (writeFiles directory files : StateM σ (Except OutputError (List String))).run state =
      (.error e, after)) : checkStems files = .error e ∧ after = state := by
  cases writes_run h with
  | refused hnames => exact ⟨hnames, rfl⟩
  | noDirectory hnames hmake => cases hname
  | files hnames hmake heach =>
    cases heach with
    | stopped hsplit hbefore hwrite => cases hname

/-- **Nothing is touched when a name is bad.** Writing fails for a name exactly when some file
offends: its stem is not the name of one file, or an earlier file has it. The error is then that of
the first file that offends, and the file system is as it was. -/
theorem writeFiles_refusal_iff (directory : String) (files : List SchemaFile) (state : σ) :
    ((∃ e after, OfName e ∧
        (writeFiles directory files : StateM σ (Except OutputError (List String))).run state =
          (.error e, after)) ↔ SomeOffends files) ∧
      ∀ e after, OfName e →
        ((writeFiles directory files : StateM σ (Except OutputError (List String))).run state =
          (.error e, after) ↔ FirstRefused files e ∧ after = state) := by
  constructor
  · constructor
    · rintro ⟨e, after, hname, hrun⟩
      obtain ⟨before, file, rest, hsplit, hfirst, hrefused⟩ :=
        checkStems_eq_error.1 (refused_of_run hname hrun).1
      exact ⟨before, file, rest, hsplit, offends_iff.2 ⟨e, hrefused⟩⟩
    · intro hsome
      cases hcheck : checkStems files with
      | ok => exact absurd hsome (checkStems_eq_ok.1 hcheck)
      | error e =>
        obtain ⟨before, file, rest, hsplit, hfirst, hrefused⟩ := checkStems_eq_error.1 hcheck
        exact ⟨e, state, hrefused.ofName, run_of_refused hcheck⟩
  · intro e after hname
    rw [← checkStems_eq_error]
    constructor
    · intro hrun
      exact refused_of_run hname hrun
    · rintro ⟨hcheck, rfl⟩
      exact run_of_refused hcheck

end Writing

/-- Files of which the third has the stem of the first, and the fourth has none. -/
def twinFiles : List SchemaFile :=
  ["post", "user", "post", ""].map fun stem => { stem }

/-- The third file is refused before the fourth is looked at, and not even a directory is made. -/
theorem twinFiles_refused :
    OfName (.duplicateName "post") ∧
      (writeFiles "ent/schema" twinFiles :
        StateM FileTree (Except OutputError (List String))).run {} =
          (.error (.duplicateName "post"), {}) := by
  have hname : OfName (.duplicateName "post") := .duplicate
  refine ⟨hname, ?_⟩
  refine ((writeFiles_refusal_iff "ent/schema" twinFiles ({} : FileTree)).2 _ _ hname).2 ⟨?_, rfl⟩
  have hfirst : ¬SomeOffends (twinFiles.take 2) := checkStems_eq_ok.1 rfl
  have hpost : ¬Misnamed "post" := stemDefect?_eq_none.1 (by decide)
  exact ⟨twinFiles.take 2, { stem := "post" }, twinFiles.drop 3, rfl, hfirst,
    .taken hpost (by decide)⟩

end EntSchema.Output
