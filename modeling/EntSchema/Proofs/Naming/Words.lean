import EntSchema.Naming.Word

/-!
# Names as lists of words

A separator inside a name is a place where its words fall apart (`words_append_cons`). So the words
of a name are its characters without the separators (`flatten_words`), and words that are joined by
separators are read back (`words_intercalate`).
-/

namespace EntSchema.Naming

/-- The characters of a name that are no separators. -/
def letters (name : List Char) : List Char :=
  name.filter fun c => !isSeparator c

theorem words_append_cons {c : Char} (h : isSeparator c = true) (front back : List Char) :
    words (front ++ c :: back) = words front ++ words back := by
  rw [words, Text.pieces_append_cons h, List.filter_append]
  rfl

theorem words_singleton {word : List Char} (hne : word ≠ [])
    (h : ∀ c ∈ word, isSeparator c = false) : words word = [word] := by
  have hword : (!word.isEmpty) = true := by
    rw [List.isEmpty_eq_false_iff.2 hne]
    rfl
  rw [words, Text.pieces_eq_singleton h]
  exact List.filter_cons_of_pos hword

/-- Empty words hold no characters. -/
theorem flatten_words_eq (name : List Char) :
    (words name).flatten = (Text.pieces isSeparator name).flatten := by
  unfold words
  induction Text.pieces isSeparator name with
  | nil => rfl
  | cons piece rest ih =>
    cases piece with
    | nil => exact ih
    | cons c more =>
      show (c :: more) ++ (rest.filter (!·.isEmpty)).flatten = (c :: more) ++ rest.flatten
      rw [ih]

/-- **The words of a name are its characters without the separators.** -/
theorem flatten_words (name : List Char) : (words name).flatten = letters name := by
  rw [flatten_words_eq, letters]
  induction name with
  | nil => rfl
  | cons c rest ih =>
    by_cases hc : isSeparator c = true
    · have hpieces : Text.pieces isSeparator (c :: rest) =
          [] :: Text.pieces isSeparator rest := if_pos hc
      rw [hpieces, List.flatten_cons, List.nil_append, ih,
        List.filter_cons_of_neg (by simpa using hc)]
    · have hpieces : Text.pieces isSeparator (c :: rest) =
          (Text.pieces isSeparator rest).modifyHead (c :: ·) := if_neg hc
      rw [hpieces, List.filter_cons_of_pos (by simpa using hc), ← ih]
      cases hrest : Text.pieces isSeparator rest with
      | nil => exact absurd hrest (Text.pieces_ne_nil _ _)
      | cons piece more => rfl

/-- **Words that are joined by separators are read back.** -/
theorem words_intercalate {c : Char} (hc : isSeparator c = true) {parts : List (List Char)}
    (hne : ∀ word ∈ parts, word ≠ [])
    (h : ∀ word ∈ parts, ∀ d ∈ word, isSeparator d = false) :
    words ([c].intercalate parts) = parts := by
  induction parts with
  | nil => rfl
  | cons word rest ih =>
    obtain ⟨hword, hrest⟩ := List.forall_mem_cons.1 h
    obtain ⟨hwordNe, hrestNe⟩ := List.forall_mem_cons.1 hne
    have hsingle : words word = [word] := words_singleton hwordNe hword
    cases rest with
    | nil =>
      rw [List.intercalate_singleton]
      exact hsingle
    | cons next more =>
      rw [List.intercalate_cons_cons, List.append_assoc, List.singleton_append,
        words_append_cons hc, hsingle, ih hrestNe hrest]
      rfl

end EntSchema.Naming
