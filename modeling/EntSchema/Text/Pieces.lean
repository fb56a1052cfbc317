/-!
# Cutting a text at separators

A text is a list of characters here. `pieces` cuts it at every separator and keeps empty pieces,
so the number of pieces is one more than the number of separators and nothing but the separators
is lost. Paths, words and lines are all read through such a cut.
-/

namespace EntSchema.Text

/-- The pieces of a text between the characters that `isSeparator` names, in order. -/
def pieces (isSeparator : Char → Bool) : List Char → List (List Char)
  | [] => [[]]
  | c :: rest =>
    if isSeparator c then [] :: pieces isSeparator rest
    else (pieces isSeparator rest).modifyHead (c :: ·)

/-- A text without separators is one piece. -/
theorem pieces_eq_singleton {isSeparator : Char → Bool} {s : List Char}
    (h : ∀ c ∈ s, isSeparator c = false) : pieces isSeparator s = [s] := by
  induction s with
  | nil => rfl
  | cons c rest ih =>
    simp only [List.mem_cons, forall_eq_or_imp] at h
    simp [pieces, h.1, ih h.2]

/-- There is always a piece. -/
theorem pieces_ne_nil (isSeparator : Char → Bool) (s : List Char) :
    pieces isSeparator s ≠ [] := by
  induction s with
  | nil => simp [pieces]
  | cons c rest ih =>
    rw [pieces]
    split
    · simp
    · cases h : pieces isSeparator rest with
      | nil => exact absurd h ih
      | cons piece more => simp

/-- No piece contains a separator. -/
theorem isSeparator_eq_false_of_mem_pieces {isSeparator : Char → Bool} {s piece : List Char}
    {c : Char} (h : piece ∈ pieces isSeparator s) (hc : c ∈ piece) : isSeparator c = false := by
  induction s generalizing piece with
  | nil =>
    simp only [pieces, List.mem_singleton] at h
    simp [h] at hc
  | cons d rest ih =>
    rw [pieces] at h
    split at h
    · rcases List.mem_cons.1 h with rfl | h
      · simp at hc
      · exact ih h hc
    · rename_i hd
      cases hp : pieces isSeparator rest with
      | nil => exact absurd hp (pieces_ne_nil _ _)
      | cons first more =>
        rw [hp] at h ih
        rcases List.mem_cons.1 h with rfl | h
        · rcases List.mem_cons.1 hc with rfl | hc
          · simpa using hd
          · exact ih List.mem_cons_self hc
        · exact ih (List.mem_cons_of_mem _ h) hc

/-- A separator between two texts is a place where the cut falls apart. -/
theorem pieces_append_cons {isSeparator : Char → Bool} {c : Char} (hc : isSeparator c = true)
    (s t : List Char) :
    pieces isSeparator (s ++ c :: t) = pieces isSeparator s ++ pieces isSeparator t := by
  induction s with
  | nil => simp [pieces, hc]
  | cons d rest ih =>
    by_cases hd : isSeparator d = true
    · simp [pieces, hd, ih]
    · simp only [List.cons_append, pieces, hd, ih]
      cases h : pieces isSeparator rest with
      | nil => exact absurd h (pieces_ne_nil _ _)
      | cons piece more => simp

end EntSchema.Text
