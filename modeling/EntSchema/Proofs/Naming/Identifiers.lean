import EntSchema.Proofs.Naming.Ascii

/-!
# Names that are identifiers in camel case

A Go identifier starts with a letter or an underscore and goes on with letters, digits and
underscores. In ASCII it is plain what letters and digits are; beyond, a version of the Unicode
standard says it. So the two classes are a parameter here, of which only the part in ASCII is fixed.

Camel case drops separators and nothing else: a character that fits in no identifier is kept. So it
is decided word by word whether the result is an identifier:

* `isIdentifier_upperCamelChars` — the form of a name is an identifier exactly when there is a word,
  the first word can stand at the beginning, and every other word can stand behind it.
* `isIdentifier_upperCamelChars_of_ascii` — for a name in ASCII this is to say that the name without
  its separators is an identifier.
-/

namespace EntSchema.Naming

/-! ## Identifiers -/

/-- The letters and the digits. -/
structure CharacterClasses where
  isLetter : Char → Bool
  isDigit : Char → Bool
  isLetter_of_ascii : ∀ c, Unicode.isAscii c = true → isLetter c = c.isAlpha
  isDigit_of_ascii : ∀ c, Unicode.isAscii c = true → isDigit c = c.isDigit

/-- No letters and digits but those of ASCII. -/
def asciiClasses : CharacterClasses where
  isLetter := Char.isAlpha
  isDigit := Char.isDigit
  isLetter_of_ascii _ _ := rfl
  isDigit_of_ascii _ _ := rfl

instance : Inhabited CharacterClasses := ⟨asciiClasses⟩

namespace CharacterClasses

/-- Whether an identifier can start with `c`. -/
def starts (classes : CharacterClasses) (c : Char) : Bool :=
  c == '_' || classes.isLetter c

/-- Whether an identifier can go on with `c`. -/
def continues (classes : CharacterClasses) (c : Char) : Bool :=
  classes.starts c || classes.isDigit c

end CharacterClasses

/-- A text that is an identifier. -/
def IsIdentifier (classes : CharacterClasses) : List Char → Prop
  | [] => False
  | c :: rest => classes.starts c = true ∧ ∀ d ∈ rest, classes.continues d = true

-- The characters of a text are gone through, and not all characters that there are.
instance (classes : CharacterClasses) : DecidablePred (IsIdentifier classes)
  | [] => inferInstanceAs (Decidable False)
  | c :: rest => decidable_of_iff (classes.starts c = true ∧ rest.all classes.continues = true)
      (and_congr_right fun _ => List.all_eq_true)

section Identifiers

variable {classes : CharacterClasses} {c : Char} {text first rest : List Char}

theorem continues_of_starts (h : classes.starts c = true) : classes.continues c = true := by
  rw [CharacterClasses.continues, h, Bool.true_or]

theorem IsIdentifier.continues (h : IsIdentifier classes text) :
    ∀ c ∈ text, classes.continues c = true := by
  cases text with
  | nil => exact h.elim
  | cons c rest => exact List.forall_mem_cons.2 ⟨continues_of_starts h.1, h.2⟩

theorem isIdentifier_append (hne : first ≠ []) :
    IsIdentifier classes (first ++ rest) ↔
      IsIdentifier classes first ∧ ∀ c ∈ rest, classes.continues c = true := by
  cases first with
  | nil => exact absurd rfl hne
  | cons c more =>
    rw [List.cons_append, IsIdentifier, IsIdentifier, List.forall_mem_append, and_assoc]

/-! ### In ASCII -/

theorem starts_of_ascii (h : Unicode.isAscii c = true) :
    classes.starts c = asciiClasses.starts c := by
  rw [CharacterClasses.starts, CharacterClasses.starts, classes.isLetter_of_ascii c h]
  rfl

theorem continues_of_ascii (h : Unicode.isAscii c = true) :
    classes.continues c = asciiClasses.continues c := by
  rw [CharacterClasses.continues, CharacterClasses.continues, starts_of_ascii h,
    classes.isDigit_of_ascii c h]
  rfl

/-- **All classes have the same identifiers in ASCII.** -/
theorem isIdentifier_of_ascii (h : ∀ c ∈ text, Unicode.isAscii c = true) :
    IsIdentifier classes text ↔ IsIdentifier asciiClasses text := by
  cases text with
  | nil => exact Iff.rfl
  | cons c rest =>
    obtain ⟨hc, hrest⟩ := List.forall_mem_cons.1 h
    rw [IsIdentifier, IsIdentifier, starts_of_ascii hc]
    refine and_congr_right fun _ => forall₂_congr fun d hd => ?_
    rw [continues_of_ascii (hrest d hd)]

end Identifiers

/-! ## Words in camel case -/

/-- A word whose camel case form an identifier can start with. -/
def CanLead (classes : CharacterClasses) (word : List Char) : Prop :=
  isAcronym (Unicode.capitals word) = true ∨ IsIdentifier classes (capitalize word)

/-- A word whose camel case form an identifier can go on with. -/
def CanFollow (classes : CharacterClasses) (word : List Char) : Prop :=
  isAcronym (Unicode.capitals word) = true ∨ ∀ c ∈ capitalize word, classes.continues c = true

section Words

variable {classes : CharacterClasses} {word text raised name : List Char}

/-- Acronyms are identifiers. -/
theorem isIdentifier_of_isAcronym (h : isAcronym word = true) : IsIdentifier classes word := by
  have hall : (acronyms.all fun acronym => acronym.toList.all Unicode.isAscii &&
      decide (IsIdentifier asciiClasses acronym.toList)) = true := by
    decide
  obtain ⟨acronym, hmem, hword⟩ := List.any_eq_true.1 h
  obtain rfl := beq_iff_eq.1 hword
  obtain ⟨hascii, hidentifier⟩ := Bool.and_eq_true_iff.1 (List.all_eq_true.1 hall acronym hmem)
  exact (isIdentifier_of_ascii (List.all_eq_true.1 hascii)).2 (of_decide_eq_true hidentifier)

/-- What is true of acronyms is true of a word in camel case if the word is one, or if it is true of
the word with a capital. -/
theorem camelWord_iff {P : List Char → Prop} (hacronyms : ∀ word, isAcronym word = true → P word) :
    P (camelWord word) ↔ isAcronym (Unicode.capitals word) = true ∨ P (capitalize word) := by
  rw [camelWord]
  by_cases hacronym : isAcronym (Unicode.capitals word) = true
  · simp only [hacronym, if_true, true_or, iff_true]
    exact hacronyms _ hacronym
  · simp only [hacronym, Bool.false_eq_true, if_false, false_or]

theorem isIdentifier_camelWord : IsIdentifier classes (camelWord word) ↔ CanLead classes word :=
  camelWord_iff fun _ => isIdentifier_of_isAcronym

theorem continues_camelWord :
    (∀ c ∈ camelWord word, classes.continues c = true) ↔ CanFollow classes word :=
  camelWord_iff (P := fun text => ∀ c ∈ text, classes.continues c = true)
    fun _ h => (isIdentifier_of_isAcronym h).continues

/-- Capitals are never left out. -/
theorem capital_ne_nil (c : Char) : Unicode.capital c ≠ [] := by
  have hall : (Unicode.toCapitalsTable.all fun entry => !entry.2.isEmpty) = true := by decide
  rw [Unicode.capital]
  split
  · exact List.cons_ne_nil _ _
  split
  · rename_i codes hcodes
    obtain ⟨before, after, htable, -⟩ := List.lookup_eq_some_iff.1 hcodes
    have hentry := List.all_eq_true.1 hall (c.toNat, codes)
      (htable ▸ List.mem_append_right _ List.mem_cons_self)
    rw [ne_eq, List.map_eq_nil_iff]
    rintro rfl
    cases hentry
  · exact List.cons_ne_nil _ _

theorem Raised.ne_nil (h : Raised text raised) (hne : text ≠ []) : raised ≠ [] := by
  cases h with
  | nil => exact absurd rfl hne
  | keep c _ => exact List.cons_ne_nil _ _
  | raise c _ => exact List.append_ne_nil_of_left_ne_nil (capital_ne_nil c) _

theorem ne_nil_of_mem_words (h : word ∈ words name) : word ≠ [] := by
  have hword := (List.mem_filter.1 h).2
  rintro rfl
  cases hword

/-- **The camel case form of a name is an identifier as its words allow.** -/
theorem isIdentifier_upperCamelChars :
    IsIdentifier classes (upperCamelChars name) ↔
      ∃ first rest, words name = first :: rest ∧ CanLead classes first ∧
        ∀ word ∈ rest, CanFollow classes word := by
  rw [upperCamelChars]
  cases hwords : words name with
  | nil =>
    refine ⟨False.elim, ?_⟩
    rintro ⟨first, rest, hnone, -, -⟩
    cases hnone
  | cons first rest =>
    have hfirst : first ≠ [] := ne_nil_of_mem_words (hwords ▸ List.mem_cons_self)
    have hform : camelWord first ≠ [] := (raised_camelWord first).ne_nil hfirst
    rw [List.flatMap_cons, isIdentifier_append hform, isIdentifier_camelWord,
      List.forall_mem_flatMap]
    simp only [continues_camelWord]
    constructor
    · intro h
      exact ⟨first, rest, rfl, h⟩
    · rintro ⟨_, _, hsame, h⟩
      cases hsame
      exact h

/-! ### In ASCII -/

theorem identifier_toUpper {c : Char} (h : Unicode.isAscii c = true) :
    asciiClasses.starts c.toUpper = asciiClasses.starts c ∧
      asciiClasses.continues c.toUpper = asciiClasses.continues c :=
  forall_ascii (P := fun c => asciiClasses.starts c.toUpper = asciiClasses.starts c ∧
    asciiClasses.continues c.toUpper = asciiClasses.continues c) (by decide) h

/-- Capitals leave a text of ASCII what it is: in ASCII, and an identifier or none. -/
theorem Raised.ascii (h : Raised text raised) (hascii : ∀ c ∈ text, Unicode.isAscii c = true) :
    (∀ c ∈ raised, Unicode.isAscii c = true) ∧
      ((∀ c ∈ raised, asciiClasses.continues c = true) ↔
        ∀ c ∈ text, asciiClasses.continues c = true) := by
  induction h with
  | nil => exact ⟨nofun, Iff.rfl⟩
  | keep c _ ih =>
    obtain ⟨hc, hrest⟩ := List.forall_mem_cons.1 hascii
    obtain ⟨hraised, hiff⟩ := ih hrest
    refine ⟨List.forall_mem_cons.2 ⟨hc, hraised⟩, ?_⟩
    rw [List.forall_mem_cons, List.forall_mem_cons, hiff]
  | raise c _ ih =>
    obtain ⟨hc, hrest⟩ := List.forall_mem_cons.1 hascii
    obtain ⟨hraised, hiff⟩ := ih hrest
    have hcapital := (asciiForms hc).isAscii_toUpper
    obtain ⟨-, hcontinues⟩ := identifier_toUpper hc
    rw [capital_of_ascii hc, List.singleton_append]
    refine ⟨List.forall_mem_cons.2 ⟨hcapital, hraised⟩, ?_⟩
    rw [List.forall_mem_cons, List.forall_mem_cons, hiff, hcontinues]

theorem Raised.isIdentifier (h : Raised text raised)
    (hascii : ∀ c ∈ text, Unicode.isAscii c = true) :
    IsIdentifier classes raised ↔ IsIdentifier asciiClasses text := by
  rw [isIdentifier_of_ascii (h.ascii hascii).1]
  cases h with
  | nil => exact Iff.rfl
  | keep c hrest =>
    rw [IsIdentifier, IsIdentifier, (hrest.ascii (List.forall_mem_cons.1 hascii).2).2]
  | raise c hrest =>
    obtain ⟨hc, hmore⟩ := List.forall_mem_cons.1 hascii
    rw [capital_of_ascii hc, List.singleton_append, IsIdentifier, IsIdentifier,
      (identifier_toUpper hc).1, (hrest.ascii hmore).2]

/-- **The camel case form of a name in ASCII is an identifier if the name is, without its
separators.** -/
theorem isIdentifier_upperCamelChars_of_ascii (h : ∀ c ∈ name, Unicode.isAscii c = true) :
    IsIdentifier classes (upperCamelChars name) ↔ IsIdentifier asciiClasses (letters name) := by
  refine (raised_upperCamelChars name).isIdentifier ?_
  intro c hc
  exact h c (List.mem_filter.1 hc).1

end Words

end EntSchema.Naming
