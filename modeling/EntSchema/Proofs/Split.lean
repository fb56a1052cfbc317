/-!
# Lists split at one of their elements

A change in a script is a change at one place: of a column among the columns of a table, of a table
among the tables. Such a place is given here by the list in front of it and the list behind it, as
in `front ++ element :: back`.
-/

namespace EntSchema.Split

variable {α : Type}

/-- Lists that differ in one element are the same at every other place. -/
theorem getElem?_split_of_ne {front back : List α} {old new : α} {place : Nat}
    (hplace : place ≠ front.length) :
    (front ++ old :: back)[place]? = (front ++ new :: back)[place]? := by
  by_cases hlt : place < front.length
  · rw [List.getElem?_append_left hlt, List.getElem?_append_left hlt]
  · have hle : front.length ≤ place := by omega
    have hpos : place - front.length = place - front.length - 1 + 1 := by omega
    rw [List.getElem?_append_right hle, List.getElem?_append_right hle, hpos,
      List.getElem?_cons_succ, List.getElem?_cons_succ]

theorem getElem?_split_self (front back : List α) (element : α) :
    (front ++ element :: back)[front.length]? = some element := by
  rw [List.getElem?_append_right (Nat.le_refl _), Nat.sub_self, List.getElem?_cons_zero]

/-- The place of a name is in front of all its other occurrences. -/
theorem idxOf?_split {name : String} {front back : List String} (hfront : name ∉ front) :
    (front ++ name :: back).idxOf? name = some front.length := by
  induction front with
  | nil => simp [List.idxOf?, List.findIdx?_cons]
  | cons first rest ih =>
    rw [List.mem_cons, not_or] at hfront
    have hne : ¬first = name := fun heq => hfront.1 heq.symm
    have hrest := ih hfront.2
    rw [List.idxOf?] at hrest ⊢
    simp [List.findIdx?_cons, hne, hrest]

/-- A list with one more element at its end is split there or before. -/
theorem append_singleton_eq_split {elements front back : List α} {last element : α} :
    elements ++ [last] = front ++ element :: back ↔
      (elements = front ∧ last = element ∧ back = []) ∨
        ∃ rest, elements = front ++ element :: rest ∧ back = rest ++ [last] := by
  constructor
  · intro h
    rcases List.eq_nil_or_concat back with rfl | ⟨rest, final, rfl⟩
    · obtain ⟨helements, hlast⟩ := List.append_inj' h rfl
      exact .inl ⟨helements, List.singleton_inj.1 hlast, rfl⟩
    · rw [List.concat_eq_append, ← List.cons_append, ← List.append_assoc] at h
      obtain ⟨helements, hlast⟩ := List.append_inj' h rfl
      rw [List.singleton_inj.1 hlast]
      exact .inr ⟨rest, helements, List.concat_eq_append⟩
  · rintro (⟨rfl, rfl, rfl⟩ | ⟨rest, rfl, rfl⟩)
    · rfl
    · rw [List.append_assoc, List.cons_append]

end EntSchema.Split
