import EntSchema.Proofs.Naming.Ascii
import Mathlib.Data.List.Chain

/-!
# From snake case to camel case and back

The words of a canonical name have two letters or more, all of them small. Camel case writes each
word behind the one before it, with one capital or, if it is an acronym, with capitals only. Snake
case finds the beginnings of the words again: behind a word with small letters the next capital
starts a word, and behind an acronym the last one of the capitals does, if the word there is no
acronym itself (`snakeAfter_words`). Two acronyms side by side would be one run of capitals, in
which no word begins.

So canonical names are read back from camel case (`snake_upperCamel_of_canonical`), and different
ones differ there (`eq_of_upperCamel_of_canonical`).
-/

namespace EntSchema.Naming

/-- A word of two letters or more, all of them small. -/
structure IsCanonicalWord (word : List Char) : Prop where
  long : 2 ≤ word.length
  small : ∀ c ∈ word, c ∈ smallLetters

instance (word : List Char) : Decidable (IsCanonicalWord word) :=
  decidable_of_iff (2 ≤ word.length ∧ word.all smallLetters.contains = true) (by
    simp only [List.all_eq_true, List.contains_iff_mem]
    exact ⟨fun h => ⟨h.1, h.2⟩, fun h => ⟨h.long, h.small⟩⟩)

/-- A word that is written in capitals. -/
def InCapitals (word : List Char) : Prop :=
  isAcronym (Unicode.capitals word) = true

instance (word : List Char) : Decidable (InCapitals word) :=
  inferInstanceAs (Decidable (_ = true))

/-- One or more canonical words, of which no two side by side are acronyms. -/
structure AreCanonicalWords (parts : List (List Char)) : Prop where
  some : parts ≠ []
  each : ∀ word ∈ parts, IsCanonicalWord word
  apart : parts.IsChain fun word next => ¬(InCapitals word ∧ InCapitals next)

instance (parts : List (List Char)) : Decidable (AreCanonicalWords parts) :=
  decidable_of_iff (parts ≠ [] ∧ (∀ word ∈ parts, IsCanonicalWord word) ∧
      parts.IsChain fun word next => ¬(InCapitals word ∧ InCapitals next))
    ⟨fun h => ⟨h.1, h.2.1, h.2.2⟩, fun h => ⟨h.some, h.each, h.apart⟩⟩

/-- A name of canonical words with underscores between them. -/
def IsCanonicalName (name : String) : Prop :=
  ∃ parts, AreCanonicalWords parts ∧ name.toList = ['_'].intercalate parts

/-! ## Words in camel case -/

/-- What stands behind the first letter of a word in camel case. -/
inductive CamelTail (c : Char) (tail : List Char) : List Char → Prop
  | small (h : ¬InCapitals (c :: tail)) : CamelTail c tail tail
  | capitals (h : InCapitals (c :: tail)) : CamelTail c tail (tail.map Char.toUpper)

section Words

variable {word tail form later : List Char} {parts : List (List Char)} {c d previous next : Char}
  {flag : Bool}

/-- A word in camel case begins with its first character as a capital, and what follows is as it was
or in capitals as well. -/
theorem exists_camelWord (h : IsAscii (c :: tail)) :
    ∃ form, camelWord (c :: tail) = c.toUpper :: form ∧ CamelTail c tail form := by
  by_cases hcapitals : InCapitals (c :: tail)
  · have hacronym : isAcronym (Unicode.capitals (c :: tail)) = true := hcapitals
    refine ⟨_, ?_, .capitals hcapitals⟩
    rw [camelWord]
    simp only [hacronym, if_true]
    rw [capitals_of_ascii h, List.map_cons]
  · have hacronym : isAcronym (Unicode.capitals (c :: tail)) = false :=
      Bool.eq_false_iff.2 hcapitals
    refine ⟨_, ?_, .small hcapitals⟩
    rw [camelWord]
    simp only [hacronym, Bool.false_eq_true, if_false]
    rw [capitalize, capital_of_ascii (h c List.mem_cons_self), List.singleton_append]

theorem IsCanonicalWord.isAscii (h : IsCanonicalWord word) : IsAscii word := by
  have hall : (smallLetters.all Unicode.isAscii) = true := by decide
  exact fun c hc => List.all_eq_true.1 hall c (h.small c hc)

theorem IsCanonicalWord.exists_cons (h : IsCanonicalWord word) :
    ∃ c d tail, word = c :: d :: tail := by
  match word with
  | [] => exact absurd h.long (by decide)
  | [_] => exact absurd h.long (by simp)
  | c :: d :: tail => exact ⟨c, d, tail, rfl⟩

/-- What follows a word in camel case begins with a capital. -/
theorem isLowercase_head_flatMap (h : ∀ word ∈ parts, IsCanonicalWord word) :
    ∀ d ∈ (parts.flatMap camelWord).head?, Unicode.isLowercase d = false := by
  intro d hd
  cases parts with
  | nil => cases hd
  | cons word rest =>
    have hword := h word List.mem_cons_self
    obtain ⟨c, second, tail, rfl⟩ := hword.exists_cons
    obtain ⟨form, hform, -⟩ := exists_camelWord hword.isAscii
    rw [List.flatMap_cons, hform] at hd
    cases hd
    exact (twoCases (hword.small c List.mem_cons_self)).isLowercase_capital

theorem isLowercase_head_map (h : ∀ d ∈ tail, d ∈ smallLetters)
    (hlater : ∀ d ∈ later.head?, Unicode.isLowercase d = false) :
    ∀ d ∈ (tail.map Char.toUpper ++ later).head?, Unicode.isLowercase d = false := by
  cases tail with
  | nil => exact hlater
  | cons d rest =>
    intro first hfirst
    cases hfirst
    exact (twoCases (h d List.mem_cons_self)).isLowercase_capital

/-! ## Reading a word -/

theorem snakeAfter_of_start (h : startsWord previous flag c next = true) :
    snakeAfter previous flag (c :: next :: later) =
      '_' :: (Unicode.small c ++ snakeAfter c true (next :: later)) := by
  rw [snakeAfter, h]
  rfl

theorem snakeAfter_of_no_start (h : ∀ next ∈ later.head?, startsWord previous flag c next = false) :
    snakeAfter previous flag (c :: later) = Unicode.small c ++ snakeAfter c false later := by
  cases later with
  | nil => exact (List.append_nil _).symm
  | cons next rest =>
    rw [snakeAfter, h next rfl]
    rfl

/-- A small letter starts no word. -/
theorem snakeAfter_small (h : c ∈ smallLetters) :
    snakeAfter previous flag (c :: later) = c :: snakeAfter c false later := by
  rw [snakeAfter_of_no_start, (twoCases h).small, List.singleton_append]
  intro next _
  rw [startsWord, (twoCases h).isUppercase, Bool.false_and]

/-- A capital with no small letter on either side starts no word. -/
theorem snakeAfter_capital (h : c ∈ smallLetters)
    (hprevious : Unicode.isLowercase previous = false)
    (hlater : ∀ d ∈ later.head?, Unicode.isLowercase d = false) :
    snakeAfter previous flag (c.toUpper :: later) = c :: snakeAfter c.toUpper false later := by
  rw [snakeAfter_of_no_start, (twoCases h).small_capital, List.singleton_append]
  intro next hnext
  rw [startsWord, hprevious, hlater next hnext, Bool.and_false, Bool.false_and, Bool.or_false,
    Bool.and_false]

/-- A run of small letters is read to its end. -/
theorem exists_snakeAfter_smalls (htail : ∀ d ∈ tail, d ∈ smallLetters) (hc : c ∈ smallLetters)
    (later : List Char) : ∃ last ∈ smallLetters,
      snakeAfter c false (tail ++ later) = tail ++ snakeAfter last false later := by
  induction tail generalizing c with
  | nil => exact ⟨c, hc, rfl⟩
  | cons d rest ih =>
    obtain ⟨hd, hrest⟩ := List.forall_mem_cons.1 htail
    obtain ⟨last, hlast, hread⟩ := ih hrest hd
    refine ⟨last, hlast, ?_⟩
    rw [List.cons_append, snakeAfter_small hd, hread, List.cons_append]

/-- A run of capitals is read to its end, when no small letter comes next. -/
theorem exists_snakeAfter_capitals (htail : ∀ d ∈ tail, d ∈ smallLetters) (hc : c ∈ smallLetters)
    (hlater : ∀ d ∈ later.head?, Unicode.isLowercase d = false) :
    ∃ last ∈ smallLetters, snakeAfter c.toUpper false (tail.map Char.toUpper ++ later) =
      tail ++ snakeAfter last.toUpper false later := by
  induction tail generalizing c with
  | nil => exact ⟨c, hc, rfl⟩
  | cons d rest ih =>
    obtain ⟨hd, hrest⟩ := List.forall_mem_cons.1 htail
    obtain ⟨last, hlast, hread⟩ := ih hrest hd
    have hnext := isLowercase_head_map hrest hlater
    refine ⟨last, hlast, ?_⟩
    rw [List.map_cons, List.cons_append,
      snakeAfter_capital hd (twoCases hc).isLowercase_capital hnext, hread, List.cons_append]

/-- A character behind which the first letter of a word starts a word: a small letter, or the last
capital of an acronym when the word is no acronym itself. -/
def EndsBefore (last : Char) (word : List Char) : Prop :=
  Unicode.isLowercase last = true ∨ (Unicode.isAlphabetic last = true ∧ ¬InCapitals word)

/-- **A word is read to its end behind its first letter**, which leaves a character that the first
letter of the next word can be told from. -/
theorem exists_snakeAfter_tail (hword : IsCanonicalWord (c :: tail)) (hform : CamelTail c tail form)
    (hlater : ∀ d ∈ later.head?, Unicode.isLowercase d = false) :
    ∃ last, snakeAfter c.toUpper true (form ++ later) = tail ++ snakeAfter last false later ∧
      ∀ next, ¬(InCapitals (c :: tail) ∧ InCapitals next) → EndsBefore last next := by
  obtain ⟨_, d, rest, ⟨⟩⟩ := hword.exists_cons
  obtain ⟨hc, htail⟩ := List.forall_mem_cons.1 hword.small
  obtain ⟨hd, hrest⟩ := List.forall_mem_cons.1 htail
  cases hform with
  | small _ =>
    obtain ⟨last, hlast, hread⟩ := exists_snakeAfter_smalls hrest hd later
    refine ⟨last, ?_, fun next _ => .inl (twoCases hlast).isLowercase⟩
    rw [List.cons_append, snakeAfter_small hd, hread, List.cons_append]
  | capitals hcapitals =>
    obtain ⟨last, hlast, hread⟩ := exists_snakeAfter_capitals hrest hd hlater
    have hnext := isLowercase_head_map hrest hlater
    refine ⟨last.toUpper, ?_, ?_⟩
    · rw [List.map_cons, List.cons_append,
        snakeAfter_capital hd (twoCases hc).isLowercase_capital hnext, hread, List.cons_append]
    · intro next happart
      exact .inr ⟨(twoCases hlast).isAlphabetic_capital, fun h => happart ⟨hcapitals, h⟩⟩

/-- **The first letter of a word is read with an underscore** in front of it. -/
theorem snakeAfter_first (hword : IsCanonicalWord (c :: tail)) (hform : CamelTail c tail form)
    (hprevious : EndsBefore previous (c :: tail)) :
    snakeAfter previous false (c.toUpper :: (form ++ later)) =
      '_' :: c :: snakeAfter c.toUpper true (form ++ later) := by
  obtain ⟨_, d, rest, ⟨⟩⟩ := hword.exists_cons
  have hc := twoCases (hword.small c List.mem_cons_self)
  have hd := twoCases (hword.small d (List.mem_cons_of_mem _ List.mem_cons_self))
  have hstart : ∀ next, (InCapitals (c :: d :: rest) ∨ next = d) →
      startsWord previous false c.toUpper next = true := by
    intro next hnext
    rw [startsWord, hc.isUppercase_capital]
    rcases hprevious with hlower | ⟨halphabetic, hplain⟩
    · rw [hlower]
      rfl
    · rw [hnext.resolve_left hplain, hd.isLowercase, halphabetic, Bool.or_comm]
      rfl
  cases hform with
  | small _ =>
    rw [List.cons_append, snakeAfter_of_start (hstart d (.inr rfl)), hc.small_capital]
    rfl
  | capitals hcapitals =>
    rw [List.map_cons, List.cons_append, snakeAfter_of_start (hstart _ (.inl hcapitals)),
      hc.small_capital]
    rfl

end Words

/-! ## Reading a name -/

section Names

variable {parts : List (List Char)} {previous : Char} {name other : String}

/-- **The words of a name are found again in camel case**, each behind the one before it. -/
theorem snakeAfter_words (hparts : ∀ word ∈ parts, IsCanonicalWord word)
    (happart : parts.IsChain fun word next => ¬(InCapitals word ∧ InCapitals next))
    (hprevious : ∀ word ∈ parts.head?, EndsBefore previous word) :
    snakeAfter previous false (parts.flatMap camelWord) = parts.flatMap ('_' :: ·) := by
  -- All that is carried from word to word is the character that the word before it ends in.
  induction parts generalizing previous with
  | nil => rfl
  | cons word rest ih =>
    obtain ⟨hword, hrest⟩ := List.forall_mem_cons.1 hparts
    obtain ⟨c, d, tail, rfl⟩ := hword.exists_cons
    obtain ⟨form, hcamel, hform⟩ := exists_camelWord hword.isAscii
    obtain ⟨last, hread, hlast⟩ :=
      exists_snakeAfter_tail hword hform (isLowercase_head_flatMap hrest)
    have hnext : ∀ next ∈ rest.head?, EndsBefore last next := fun next hnext =>
      hlast next (happart.rel_head? hnext)
    rw [List.flatMap_cons, hcamel, List.cons_append,
      snakeAfter_first hword hform (hprevious _ rfl), hread, ih hrest happart.tail hnext]
    rfl

theorem intercalate_underscore (word : List Char) (rest : List (List Char)) :
    ['_'].intercalate (word :: rest) = word ++ rest.flatMap ('_' :: ·) := by
  induction rest generalizing word with
  | nil => rw [List.intercalate_singleton, List.flatMap_nil, List.append_nil]
  | cons next more ih =>
    rw [List.intercalate_cons_cons, ih, List.flatMap_cons, List.append_assoc]
    rfl

/-- The first word has no underscore in front of it. -/
theorem snakeChars_words (h : AreCanonicalWords parts) :
    snakeChars (parts.flatMap camelWord) = ['_'].intercalate parts := by
  cases parts with
  | nil => exact absurd rfl h.some
  | cons word rest =>
    obtain ⟨hword, hrest⟩ := List.forall_mem_cons.1 h.each
    obtain ⟨c, d, tail, rfl⟩ := hword.exists_cons
    obtain ⟨form, hcamel, hform⟩ := exists_camelWord hword.isAscii
    obtain ⟨last, hread, hlast⟩ :=
      exists_snakeAfter_tail hword hform (isLowercase_head_flatMap hrest)
    have hnext : ∀ next ∈ rest.head?, EndsBefore last next := fun next hnext =>
      hlast next (h.apart.rel_head? hnext)
    rw [List.flatMap_cons, hcamel, List.cons_append, snakeChars,
      (twoCases (hword.small c List.mem_cons_self)).small_capital, hread,
      snakeAfter_words hrest h.apart.tail hnext, intercalate_underscore]
    rfl

theorem words_of_canonical (h : AreCanonicalWords parts) :
    words (['_'].intercalate parts) = parts := by
  apply words_intercalate rfl
  · intro word hword hnil
    have hlong := (h.each word hword).long
    rw [hnil] at hlong
    exact absurd hlong (by decide)
  · intro word hword c hc
    exact isSeparator_of_small ((h.each word hword).small c hc)

/-- **A canonical name is read back from camel case.** -/
theorem snake_upperCamel_of_canonical (h : IsCanonicalName name) :
    snake (upperCamel name) = name := by
  obtain ⟨parts, hparts, hname⟩ := h
  rw [snake, upperCamel, String.toList_ofList, upperCamelChars, hname, words_of_canonical hparts,
    snakeChars_words hparts, ← hname, String.ofList_toList]

/-- **Different canonical names differ in camel case.** -/
theorem eq_of_upperCamel_of_canonical (h : IsCanonicalName name) (hother : IsCanonicalName other)
    (heq : upperCamel name = upperCamel other) : name = other := by
  rw [← snake_upperCamel_of_canonical h, heq, snake_upperCamel_of_canonical hother]

end Names

end EntSchema.Naming
