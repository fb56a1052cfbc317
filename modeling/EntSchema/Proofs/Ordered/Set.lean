import EntSchema.Ordered.Set
import Mathlib.Data.List.Sort
import Mathlib.Data.String.Basic

/-!
# Sets are increasing lists

A set is built by insertions, and each of them keeps the list strictly increasing
(`Increasing.insertAll`). So a set is known by its members alone: in which order and how often
something was put in leaves no trace.
-/

namespace EntSchema.Ordered

/-- The members stand in order, each of them once. -/
def Increasing (set : List String) : Prop :=
  set.Pairwise (· < ·)

variable {set : List String}

theorem Increasing.insert (h : Increasing set) (member : String) :
    Increasing (insert member set) := by
  induction set with
  | nil => exact List.pairwise_singleton _ _
  | cons first rest ih =>
    obtain ⟨hfirst, hrest⟩ := List.pairwise_cons.1 h
    rw [Ordered.insert]
    split
    · exact h
    · rename_i hne
      split
      · rename_i hless
        refine List.pairwise_cons.2 ⟨?_, h⟩
        intro later hlater
        rcases List.mem_cons.1 hlater with rfl | hlater
        · exact hless
        · exact hless.trans (hfirst later hlater)
      · rename_i hless
        have hmore : first < member := lt_of_le_of_ne (not_lt.1 hless) (Ne.symm hne)
        refine List.pairwise_cons.2 ⟨?_, ih hrest⟩
        intro later hlater
        rcases mem_insert.1 hlater with rfl | hlater
        · exact hmore
        · exact hfirst later hlater

theorem Increasing.insertAll (h : Increasing set) (members : List String) :
    Increasing (insertAll set members) := by
  induction members generalizing set with
  | nil => exact h
  | cons member rest ih => exact ih (h.insert member)

theorem insertAll_append (set members more : List String) :
    insertAll set (members ++ more) = insertAll (insertAll set members) more :=
  List.foldl_append

end EntSchema.Ordered
