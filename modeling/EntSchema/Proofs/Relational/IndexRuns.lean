import EntSchema.Proofs.Relational.Finalize
import Mathlib.Data.List.Sort

/-!
# Finishing a table between its indexes

A table gets its indexes one by one, and it is finished by sorting them by one bit, whether they are
unique. The sort is stable, and a stable sort by one bit puts the two classes one behind the other,
each in its order (`uniqueFirst_eq_mergeSort`).

So it does not matter when a table is finished. What a step leaves to be sorted is what was there
before with the index that the step adds (`IndexStep.finalize_apply`). From step to step this says
of a run that finishing after it is finishing once, after all its indexes (`finalize_runSteps`).
-/

namespace EntSchema.Relational

/-! ## Sorting by one bit -/

section Sorting

variable {indexes : List Index}

/-- The order in which indexes are sorted: that of the bit which says that they are not unique. -/
def sortsBefore (index other : Index) : Bool :=
  decide ((!index.isUnique) ≤ !other.isUnique)

theorem sortsBefore_iff {index other : Index} :
    sortsBefore index other = true ↔ (other.isUnique = true → index.isUnique = true) := by
  rw [sortsBefore, decide_eq_true_eq]
  cases index.isUnique <;> cases other.isUnique <;> decide

theorem sortsBefore_trans (index other third : Index) (h : sortsBefore index other = true)
    (h' : sortsBefore other third = true) : sortsBefore index third = true := by
  rw [sortsBefore_iff] at *
  exact fun hthird => h (h' hthird)

theorem sortsBefore_total (index other : Index) :
    (sortsBefore index other || sortsBefore other index) = true := by
  rw [Bool.or_eq_true, sortsBefore_iff, sortsBefore_iff]
  cases index.isUnique with
  | true => exact .inl fun _ => rfl
  | false => exact .inr nofun

/-- Indexes with no unique one behind another one are in order already. -/
theorem uniqueFirst_eq_self (h : UniqueInFront indexes) : uniqueFirst indexes = indexes := by
  induction indexes with
  | nil => rfl
  | cons index rest ih =>
    obtain ⟨hindex, hrest⟩ := List.pairwise_cons.1 h
    cases hunique : index.isUnique with
    | true =>
      have hcons : uniqueFirst (index :: rest) = index :: uniqueFirst rest := by
        simp [uniqueFirst, hunique]
      rw [hcons, ih hrest]
    | false =>
      have hothers : ∀ other ∈ index :: rest, other.isUnique = false := by
        refine List.forall_mem_cons.2 ⟨hunique, fun other hother => ?_⟩
        rw [Bool.eq_false_iff]
        intro hfront
        rw [hindex other hother hfront] at hunique
        cases hunique
      obtain ⟨hfront, hback⟩ := @filter_unique_append [] _ (List.forall_mem_nil _) hothers
      rw [uniqueFirst]
      exact congrArg₂ (· ++ ·) hfront hback

/-- The sort keeps the order of each class, because each class is in order by itself. -/
theorem filter_class_mergeSort (unique : Bool) (indexes : List Index) :
    (indexes.mergeSort sortsBefore).filter (·.isUnique = unique) =
      indexes.filter (·.isUnique = unique) := by
  have hclass : (indexes.filter (·.isUnique = unique)).Pairwise
      fun index other => sortsBefore index other = true := by
    refine List.pairwise_of_forall_mem_list ?_
    intro index hindex other hother
    have hsame : index.isUnique = unique := of_decide_eq_true (List.mem_filter.1 hindex).2
    have hsame' : other.isUnique = unique := of_decide_eq_true (List.mem_filter.1 hother).2
    rw [sortsBefore_iff, hsame, hsame']
    exact id
  have hsublist := (List.sublist_mergeSort sortsBefore_trans sortsBefore_total hclass
    List.filter_sublist).filter (·.isUnique = unique)
  rw [List.filter_filter] at hsublist
  simp only [Bool.and_self] at hsublist
  have hperm := (List.mergeSort_perm indexes sortsBefore).filter (·.isUnique = unique)
  exact (hsublist.eq_of_length hperm.length_eq.symm).symm

/-- **A stable sort by one bit puts one class behind the other.** -/
theorem uniqueFirst_eq_mergeSort (indexes : List Index) :
    uniqueFirst indexes = indexes.mergeSort sortsBefore := by
  have hordered : UniqueInFront (indexes.mergeSort sortsBefore) :=
    (List.pairwise_mergeSort sortsBefore_trans sortsBefore_total indexes).imp sortsBefore_iff.1
  have hunique := filter_class_mergeSort true indexes
  have hothers := filter_class_mergeSort false indexes
  simp only [Bool.decide_eq_true, Bool.decide_eq_false] at hunique hothers
  rw [← uniqueFirst_eq_self hordered, uniqueFirst, uniqueFirst, hunique, hothers]

end Sorting

/-! ## Runs -/

/-- What is done to a table while its indexes are declared. -/
inductive IndexStep where
  | add (index : Index)
  | finish
  deriving DecidableEq, Repr

namespace IndexStep

/-- The table after a step. -/
def apply (table : Table) : IndexStep → Table
  | add index => table.addIndex index
  | finish => table.finalize

/-- The index that a step adds. -/
def added? : IndexStep → Option Index
  | add index => some index
  | finish => none

end IndexStep

namespace Table

/-- The table after some steps, the first one first. -/
def runSteps (table : Table) (steps : List IndexStep) : Table :=
  steps.foldl IndexStep.apply table

/-- The table with some more indexes, at the end. -/
def addIndexes (table : Table) (indexes : List Index) : Table :=
  { table with indexes := table.indexes ++ indexes }

variable {table other : Table}

/-- Tables that are the same when they are finished stay so with more indexes. -/
theorem finalize_addIndexes_congr (h : table.finalize = other.finalize) (indexes : List Index) :
    (table.addIndexes indexes).finalize = (other.addIndexes indexes).finalize := by
  have hself (table : Table) :
      (table.addIndexes indexes).finalize = (table.finalize.addIndexes indexes).finalize := by
    simp only [finalize, addIndexes, uniqueFirst_uniqueFirst_append]
  rw [hself table, h, ← hself other]

end Table

/-- **A step adds its index and else leaves what is to be sorted.** -/
theorem IndexStep.finalize_apply (table : Table) (step : IndexStep) :
    (step.apply table).finalize = (table.addIndexes step.added?.toList).finalize := by
  cases step with
  | add index => rfl
  | finish =>
    rw [apply, Table.finalize_finalize, added?, Option.toList_none, Table.addIndexes,
      List.append_nil]

/-- **Finishing after a run is finishing once**, after all its indexes. -/
theorem Table.finalize_runSteps (table : Table) (steps : List IndexStep) :
    (table.runSteps steps).finalize =
      (table.addIndexes (steps.filterMap (·.added?))).finalize := by
  induction steps generalizing table with
  | nil =>
    rw [List.filterMap_nil, addIndexes, List.append_nil]
    rfl
  | cons step rest ih =>
    have hrun : table.runSteps (step :: rest) = (step.apply table).runSteps rest := rfl
    have hadded : (step :: rest).filterMap (·.added?) =
        step.added?.toList ++ rest.filterMap (·.added?) := by
      cases step with
      | add index => rfl
      | finish => rfl
    have hsplit : table.addIndexes (step.added?.toList ++ rest.filterMap (·.added?)) =
        (table.addIndexes step.added?.toList).addIndexes (rest.filterMap (·.added?)) := by
      simp only [addIndexes, List.append_assoc]
    rw [hrun, ih, hadded, hsplit]
    exact finalize_addIndexes_congr (step.finalize_apply table) _

/-- **When and how often a table is finished does not matter**, if it is finished in the end. Then
its indexes are those that it had and those that were added, sorted as a whole: the unique ones and
then the others, each class in its order. Nothing else of the table changes. -/
theorem runSteps_finished (table : Table) (steps : List IndexStep) :
    let indexes := table.indexes ++ steps.filterMap (·.added?)
    table.runSteps (steps ++ [.finish]) =
        { table with
          indexes := indexes.filter (·.isUnique) ++ indexes.filter (!·.isUnique) } ∧
      (table.runSteps (steps ++ [.finish])).indexes = indexes.mergeSort sortsBefore := by
  intro indexes
  have hlast : table.runSteps (steps ++ [.finish]) = (table.runSteps steps).finalize := by
    rw [Table.runSteps, List.foldl_append]
    rfl
  rw [hlast, Table.finalize_runSteps]
  exact ⟨rfl, uniqueFirst_eq_mergeSort indexes⟩

end EntSchema.Relational
