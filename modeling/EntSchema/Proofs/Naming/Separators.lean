import EntSchema.Naming.Camel
import EntSchema.Proofs.Naming.Words

/-!
# Camel case at separators

The words of a name fall apart at a run of separators (`words_append_run`), and a camel case form is
made of the words alone. So the upper form of a name is put together from the forms of what is in
front of a separator and of what is behind it. The lower form is too, but its first word is written
in another way: behind a word every word has a capital, and where there is no word in front of the
separator, the first word comes behind it (`camel_append_separator`).

What the separators are, how many there are between two words, and whether there are some at the
ends of a name, leaves no trace in either form (`IgnoresSeparators`).
-/

namespace EntSchema.Naming

variable {name front back run : List Char} {c : Char}

/-! ## Words and separators -/

/-- Separators in front of a name belong to no word. -/
theorem words_append_of_separators (h : ∀ c ∈ run, isSeparator c = true) :
    words (run ++ back) = words back := by
  induction run with
  | nil => rfl
  | cons c rest ih =>
    obtain ⟨hc, hrest⟩ := List.forall_mem_cons.1 h
    have hcons : words (c :: (rest ++ back)) = words [] ++ words (rest ++ back) :=
      words_append_cons hc [] (rest ++ back)
    rw [List.cons_append, hcons, ih hrest]
    rfl

/-- A name without words is one of separators only. -/
theorem words_eq_nil_iff : words name = [] ↔ ∀ c ∈ name, isSeparator c = true := by
  constructor
  · intro h
    have hletters : letters name = [] := by rw [← flatten_words, h, List.flatten_nil]
    intro c hc
    have hnot := List.filter_eq_nil_iff.1 hletters c hc
    simpa using hnot
  · intro h
    rw [← List.append_nil name]
    exact words_append_of_separators h

/-- **Words fall apart at a run of separators**, however long it is. -/
theorem words_append_run (hne : run ≠ []) (h : ∀ c ∈ run, isSeparator c = true) :
    words (front ++ run ++ back) = words front ++ words back := by
  obtain ⟨c, rest, rfl⟩ := List.exists_cons_of_ne_nil hne
  obtain ⟨hc, hrest⟩ := List.forall_mem_cons.1 h
  rw [List.append_assoc, List.cons_append, words_append_cons hc, words_append_of_separators hrest]

/-- Separators, one or more. -/
structure IsSeparation (run : String) : Prop where
  some : run ≠ ""
  each : ∀ c ∈ run.toList, isSeparator c = true

/-- A form of names in which separators leave no trace: neither which of them stand between two
words and how many, nor that some stand in front of a name or behind it. -/
structure IgnoresSeparators (form : String → String) : Prop where
  between : ∀ front run run' back, IsSeparation run → IsSeparation run' →
    form (front ++ run ++ back) = form (front ++ run' ++ back)
  leading : ∀ run name, IsSeparation run → form (run ++ name) = form name
  trailing : ∀ name run, IsSeparation run → form (name ++ run) = form name

theorem IsSeparation.words_append {run : String} (h : IsSeparation run) (front back : String) :
    words (front ++ run ++ back).toList = words front.toList ++ words back.toList := by
  have hne : run.toList ≠ [] := fun hnil => h.some (String.toList_inj.1 hnil)
  rw [String.toList_append, String.toList_append]
  exact words_append_run hne h.each

/-- What depends on the words alone ignores separators. -/
theorem ignoresSeparators_of_words {form : String → String}
    (h : ∀ name other : String, words name.toList = words other.toList → form name = form other) :
    IgnoresSeparators form where
  between front run run' back hrun hrun' := by
    apply h
    rw [hrun.words_append, hrun'.words_append]
  leading run name hrun := by
    apply h
    have hwords := hrun.words_append "" name
    rwa [String.empty_append] at hwords
  trailing name run hrun := by
    apply h
    have hwords := hrun.words_append name ""
    rw [String.append_empty] at hwords
    exact hwords.trans (List.append_nil _)

/-! ## Camel case -/

theorem lowerCamelChars_of_words {first : List Char} {rest : List (List Char)}
    (h : words name = first :: rest) :
    lowerCamelChars name = leadingWord first ++ rest.flatMap camelWord := by
  rw [lowerCamelChars, h]

theorem upperCamelChars_append (h : isSeparator c = true) :
    upperCamelChars (front ++ c :: back) = upperCamelChars front ++ upperCamelChars back := by
  rw [upperCamelChars, words_append_cons h, List.flatMap_append, upperCamelChars, upperCamelChars]

/-- Behind a word all words have capitals. -/
theorem lowerCamelChars_append_of_word (h : isSeparator c = true)
    (hword : ∃ d ∈ front, isSeparator d = false) :
    lowerCamelChars (front ++ c :: back) = lowerCamelChars front ++ upperCamelChars back := by
  have hwords := words_append_cons h front back
  cases hfront : words front with
  | nil =>
    obtain ⟨d, hd, hletter⟩ := hword
    rw [words_eq_nil_iff.1 hfront d hd] at hletter
    cases hletter
  | cons first rest =>
    rw [hfront, List.cons_append] at hwords
    rw [lowerCamelChars_of_words hwords, lowerCamelChars_of_words hfront, List.flatMap_append,
      List.append_assoc, upperCamelChars]

/-- With no word in front of it, the first word comes behind the separator. -/
theorem lowerCamelChars_append_of_none (h : isSeparator c = true)
    (hnone : ∀ d ∈ front, isSeparator d = true) :
    lowerCamelChars (front ++ c :: back) = lowerCamelChars back := by
  have hwords := words_append_cons h front back
  rw [words_eq_nil_iff.2 hnone, List.nil_append] at hwords
  rw [lowerCamelChars, hwords, lowerCamelChars]

/-- **Camel case joins what stands in front of a separator and behind it**, and the separators leave
no trace. -/
theorem camel_append_separator (front back : String) {c : Char} (h : isSeparator c = true) :
    upperCamel (front.push c ++ back) = upperCamel front ++ upperCamel back ∧
      ((∃ d ∈ front.toList, isSeparator d = false) →
        lowerCamel (front.push c ++ back) = lowerCamel front ++ upperCamel back) ∧
      ((∀ d ∈ front.toList, isSeparator d = true) →
        lowerCamel (front.push c ++ back) = lowerCamel back) ∧
      IgnoresSeparators upperCamel ∧ IgnoresSeparators lowerCamel := by
  have hchars : (front.push c ++ back).toList = front.toList ++ c :: back.toList := by
    rw [String.toList_append, String.toList_push, List.append_assoc]
    rfl
  refine ⟨?_, ?_, ?_, ?_, ?_⟩
  · rw [upperCamel, hchars, upperCamelChars_append h, String.ofList_append]
    rfl
  · intro hword
    rw [lowerCamel, hchars, lowerCamelChars_append_of_word h hword, String.ofList_append]
    rfl
  · intro hnone
    rw [lowerCamel, hchars, lowerCamelChars_append_of_none h hnone]
    rfl
  · apply ignoresSeparators_of_words
    intro name other hwords
    rw [upperCamel, upperCamelChars, hwords]
    rfl
  · apply ignoresSeparators_of_words
    intro name other hwords
    rw [lowerCamel, lowerCamelChars, hwords]
    rfl

/-- Two separators stand for one, and separators at the ends for none. -/
theorem apiKey_joined :
    isSeparator '-' = true ∧ (∃ d ∈ "_api".toList, isSeparator d = false) ∧
      upperCamel ("_api".push '-' ++ "\u00A0key_") = "APIKey" ∧
      lowerCamel ("_api".push '-' ++ "\u00A0key_") = "apiKey" := by
  have hword : ∃ d ∈ "_api".toList, isSeparator d = false := ⟨'a', by decide, by decide⟩
  obtain ⟨hupper, hlower, -⟩ :=
    camel_append_separator "_api" "\u00A0key_" (c := '-') (by decide)
  refine ⟨by decide, hword, ?_, ?_⟩
  · rw [hupper]
    decide
  · rw [hlower hword]
    decide

end EntSchema.Naming
