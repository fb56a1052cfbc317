import EntSchema.Proofs.Relational.WellFormed

/-!
# Finishing a table

A table is finished by putting its unique indexes in front, each class in its order. That can be
done early: whatever is changed afterwards, finishing again gives what finishing once at the end
would have given. This file says so for each change that an index statement makes, and it says
where the index of such a change ends up (`inserted_iff`).
-/

namespace EntSchema.Relational

/-! ## The order of indexes -/

/-- Unique indexes in front of others are told apart again. -/
theorem filter_unique_append {unique others : List Index}
    (hunique : ∀ index ∈ unique, index.isUnique = true)
    (hothers : ∀ index ∈ others, index.isUnique = false) :
    (unique ++ others).filter (·.isUnique) = unique ∧
      (unique ++ others).filter (!·.isUnique) = others := by
  have hfront : unique.filter (·.isUnique) = unique ∧ unique.filter (!·.isUnique) = [] := by
    simpa using hunique
  have hback : others.filter (·.isUnique) = [] ∧ others.filter (!·.isUnique) = others := by
    simpa using hothers
  rw [List.filter_append, List.filter_append, hfront.1, hfront.2, hback.1, hback.2]
  exact ⟨List.append_nil _, List.nil_append _⟩

/-- Both classes of indexes are the same after they were put in order. -/
theorem filter_uniqueFirst (indexes : List Index) :
    (uniqueFirst indexes).filter (·.isUnique) = indexes.filter (·.isUnique) ∧
      (uniqueFirst indexes).filter (!·.isUnique) = indexes.filter (!·.isUnique) :=
  filter_unique_append (by simp) (by simp)

theorem filter_class_uniqueFirst (unique : Bool) (indexes : List Index) :
    (uniqueFirst indexes).filter (·.isUnique = unique) =
      indexes.filter (·.isUnique = unique) := by
  obtain ⟨hunique, hothers⟩ := filter_uniqueFirst indexes
  cases unique with
  | true => simpa using hunique
  | false => simpa using hothers

theorem uniqueFirst_append (indexes more : List Index) :
    uniqueFirst (indexes ++ more) =
      (indexes.filter (·.isUnique) ++ more.filter (·.isUnique)) ++
        (indexes.filter (!·.isUnique) ++ more.filter (!·.isUnique)) := by
  rw [uniqueFirst, List.filter_append, List.filter_append]

/-- Indexes that were put in order before are put in the same order after more have come. -/
theorem uniqueFirst_uniqueFirst_append (indexes more : List Index) :
    uniqueFirst (uniqueFirst indexes ++ more) = uniqueFirst (indexes ++ more) := by
  obtain ⟨hunique, hothers⟩ := filter_uniqueFirst indexes
  rw [uniqueFirst_append, uniqueFirst_append, hunique, hothers]

theorem uniqueFirst_uniqueFirst (indexes : List Index) :
    uniqueFirst (uniqueFirst indexes) = uniqueFirst indexes := by
  have h := uniqueFirst_uniqueFirst_append indexes []
  rwa [List.append_nil, List.append_nil] at h

/-- The second list of indexes is the first one with an index inserted at the end of its class: a
unique one after the last unique index, any other one at the very end. -/
inductive Inserted (index : Index) : List Index → List Index → Prop
  | unique {unique others : List Index} (hindex : index.isUnique = true)
      (hunique : ∀ earlier ∈ unique, earlier.isUnique = true)
      (hothers : ∀ later ∈ others, later.isUnique = false) :
      Inserted index (unique ++ others) (unique ++ index :: others)
  | last {indexes : List Index} (hindex : index.isUnique = false) :
      Inserted index indexes (indexes ++ [index])

/-- **An index that is added to ordered ones ends up at the end of its class.** -/
theorem inserted_iff {index : Index} {indexes changed : List Index}
    (hordered : uniqueFirst indexes = indexes) :
    Inserted index indexes changed ↔ changed = uniqueFirst (indexes ++ [index]) := by
  have hsplit : indexes.filter (·.isUnique) ++ indexes.filter (!·.isUnique) = indexes := hordered
  cases hindex : index.isUnique with
  | true =>
    have hadded : uniqueFirst (indexes ++ [index]) =
        indexes.filter (·.isUnique) ++ index :: indexes.filter (!·.isUnique) := by
      simp [uniqueFirst_append, hindex]
    rw [hadded]
    constructor
    · rintro (⟨-, hunique, hothers⟩ | hlast)
      · obtain ⟨hfront, hback⟩ := filter_unique_append hunique hothers
        rw [hfront, hback]
      · rw [hindex] at hlast
        cases hlast
    · rintro rfl
      have hinserted : Inserted index
          (indexes.filter (·.isUnique) ++ indexes.filter (!·.isUnique)) _ :=
        .unique hindex (by simp) (by simp)
      rwa [hsplit] at hinserted
  | false =>
    have hadded : uniqueFirst (indexes ++ [index]) = indexes ++ [index] := by
      simp [uniqueFirst_append, hindex, ← List.append_assoc, hsplit]
    rw [hadded]
    constructor
    · rintro (⟨hunique, -, -⟩ | -)
      · rw [hindex] at hunique
        cases hunique
      · rfl
    · rintro rfl
      exact .last hindex

/-! ## Neighbouring indexes -/

section Neighbours

variable {index index' : Index}

/-- The order of two neighbours of different classes does not matter. -/
theorem uniqueFirst_swap_of_ne (hne : index.isUnique ≠ index'.isUnique)
    (before after : List Index) :
    uniqueFirst (before ++ index :: index' :: after) =
      uniqueFirst (before ++ index' :: index :: after) := by
  cases hunique : index.isUnique with
  | true =>
    have hother : index'.isUnique = false := by simpa [hunique] using hne
    simp [uniqueFirst, hunique, hother]
  | false =>
    have hother : index'.isUnique = true := by simpa [hunique] using hne
    simp [uniqueFirst, hunique, hother]

/-- Two neighbours of one class stay neighbours, whichever comes first, and behind the same indexes
of their class. -/
theorem exists_uniqueFirst_neighbours (hclass : index.isUnique = index'.isUnique)
    (before after : List Index) :
    ∃ front back,
      uniqueFirst (before ++ index :: index' :: after) = front ++ index :: index' :: back ∧
      uniqueFirst (before ++ index' :: index :: after) = front ++ index' :: index :: back ∧
      front.filter (·.isUnique = index.isUnique) = before.filter (·.isUnique = index.isUnique) := by
  cases hunique : index.isUnique with
  | true =>
    rw [hunique] at hclass
    refine ⟨before.filter (·.isUnique),
      after.filter (·.isUnique) ++ (before ++ after).filter (!·.isUnique), ?_, ?_, ?_⟩
    · simp [uniqueFirst, hunique, ← hclass]
    · simp [uniqueFirst, hunique, ← hclass]
    · simp
  | false =>
    rw [hunique] at hclass
    refine ⟨(before ++ after).filter (·.isUnique) ++ before.filter (!·.isUnique),
      after.filter (!·.isUnique), ?_, ?_, ?_⟩
    · simp [uniqueFirst, hunique, ← hclass]
    · simp [uniqueFirst, hunique, ← hclass]
    · have hfront : ((before ++ after).filter (·.isUnique)).filter (·.isUnique = false) = [] :=
        List.filter_eq_nil_iff.2 fun entry hentry => by simp [(List.mem_filter.1 hentry).2]
      rw [List.filter_append, hfront, List.nil_append, List.filter_filter]
      simp

end Neighbours

/-! ## Finishing and changing -/

namespace Table

@[simp] theorem finalize_finalize (table : Table) : table.finalize.finalize = table.finalize := by
  simp only [finalize, uniqueFirst_uniqueFirst]

/-- A table is finished when its indexes are in order. -/
theorem finalize_eq_self_iff {table : Table} :
    table.finalize = table ↔ uniqueFirst table.indexes = table.indexes := by
  constructor
  · intro h
    exact congrArg Table.indexes h
  · intro h
    rw [finalize, h]

theorem finalize_setColumns {table : Table} (h : table.finalize = table) (columns : List Column) :
    ({ table with columns } : Table).finalize = { table with columns } := by
  have hordered : uniqueFirst table.indexes = table.indexes := finalize_eq_self_iff.1 h
  exact finalize_eq_self_iff.2 hordered

theorem finalize_addIndex (table : Table) (index : Index) :
    (table.finalize.addIndex index).finalize = (table.addIndex index).finalize := by
  simp only [finalize, addIndex, uniqueFirst_uniqueFirst_append]

/-- Changing a column and finishing do not meet. -/
theorem changeColumn?_finalize (table : Table) (name : String) (change : Column → Column) :
    table.finalize.changeColumn? name change =
      (table.changeColumn? name change).map (·.finalize) := by
  rw [changeColumn?, changeColumn?, Option.map_map]
  rfl

end Table

end EntSchema.Relational
