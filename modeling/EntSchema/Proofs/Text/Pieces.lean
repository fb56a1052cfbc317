import EntSchema.Text.Pieces

/-!
# Pieces as parts that are joined

The pieces of a text between the places of one character are the only parts that hold no such
character and give the text when they are joined by it (`pieces_eq_iff`). So a text may be cut
whenever it is told how it has been joined, and the other way round.
-/

namespace EntSchema.Text

variable {c : Char} {s : List Char} {parts : List (List Char)}

theorem pieces_eq_splitOnP (isSeparator : Char → Bool) (s : List Char) :
    pieces isSeparator s = s.splitOnP isSeparator := by
  induction s with
  | nil => rfl
  | cons d rest ih => rw [pieces, List.splitOnP_cons_eq_if_modifyHead, ih]

/-- **The pieces give the text back.** -/
theorem intercalate_pieces (c : Char) (s : List Char) :
    [c].intercalate (pieces (· == c) s) = s := by
  rw [pieces_eq_splitOnP]
  exact List.intercalate_splitOn c

theorem pieces_intercalate (hne : parts ≠ []) (h : ∀ part ∈ parts, c ∉ part) :
    pieces (· == c) ([c].intercalate parts) = parts := by
  rw [pieces_eq_splitOnP]
  exact List.splitOn_intercalate c h hne

theorem not_mem_of_mem_pieces {piece : List Char} (h : piece ∈ pieces (· == c) s) : c ∉ piece := by
  intro hmem
  simpa using isSeparator_eq_false_of_mem_pieces h hmem

/-- **The pieces of a text** are the parts that hold no separator and give the text when separators
join them. There is at least one of them, which is empty in an empty text. -/
theorem pieces_eq_iff :
    pieces (· == c) s = parts ↔
      parts ≠ [] ∧ (∀ part ∈ parts, c ∉ part) ∧ [c].intercalate parts = s := by
  constructor
  · rintro rfl
    exact ⟨pieces_ne_nil _ s, fun _ => not_mem_of_mem_pieces, intercalate_pieces c s⟩
  · rintro ⟨hne, hparts, rfl⟩
    exact pieces_intercalate hne hparts

end EntSchema.Text
