import EntSchema.Naming.Camel
import EntSchema.Proofs.Naming.Words

/-!
# Names that become one in camel case

Camel case drops the separators of a name and writes some of its characters in capitals
(`raised_upperCamelChars`), so names with one camel case form differ in nothing else
(`sameLetters_of_upperCamel_eq`). They can differ in that: `log_2024` and `log2024` have one form.

In a plain name every word starts with a small letter, which the form shows as a capital, and has
no other capitals. So the words of a plain name can be told apart in its form, and different plain
names have different forms (`eq_of_upperCamel_eq`).
-/

namespace EntSchema.Naming

/-! ## Characters in capitals -/

/-- The second text is the first with some of its characters in capitals. -/
inductive Raised : List Char → List Char → Prop
  | nil : Raised [] []
  | keep {text raised : List Char} (c : Char) (h : Raised text raised) :
    Raised (c :: text) (c :: raised)
  | raise {text raised : List Char} (c : Char) (h : Raised text raised) :
    Raised (c :: text) (Unicode.capital c ++ raised)

namespace Raised

theorem refl (text : List Char) : Raised text text := by
  induction text with
  | nil => exact .nil
  | cons c rest ih => exact .keep c ih

theorem append {text raised text' raised' : List Char} (h : Raised text raised)
    (h' : Raised text' raised') : Raised (text ++ text') (raised ++ raised') := by
  induction h with
  | nil => exact h'
  | keep c _ ih => exact .keep c ih
  | raise c _ ih =>
    rw [List.append_assoc]
    exact .raise c ih

end Raised

theorem raised_capitals (text : List Char) : Raised text (Unicode.capitals text) := by
  induction text with
  | nil => exact .nil
  | cons c rest ih => exact .raise c ih

theorem raised_camelWord (word : List Char) : Raised word (camelWord word) := by
  rw [camelWord]
  split
  · exact raised_capitals word
  · cases word with
    | nil => exact .nil
    | cons c rest => exact .raise c (.refl rest)

/-- **Camel case drops the separators and writes some characters in capitals.** -/
theorem raised_upperCamelChars (name : List Char) :
    Raised (letters name) (upperCamelChars name) := by
  rw [← flatten_words, upperCamelChars]
  induction words name with
  | nil => exact .nil
  | cons word rest ih => exact (raised_camelWord word).append ih

/-- The names differ in separators, and in which of their characters are capitals. -/
def SameLetters (first second : String) : Prop :=
  ∃ text, Raised (letters first.toList) text ∧ Raised (letters second.toList) text

theorem sameLetters_of_upperCamel_eq {first second : String}
    (h : upperCamel first = upperCamel second) : SameLetters first second := by
  have hchars : upperCamelChars first.toList = upperCamelChars second.toList :=
    String.ofList_injective h
  refine ⟨upperCamelChars first.toList, raised_upperCamelChars _, ?_⟩
  rw [hchars]
  exact raised_upperCamelChars _

/-! ## Plain names -/

/-- The small letters that a plain word can start with. -/
def smallLetters : List Char := "abcdefghijklmnopqrstuvwxyz".toList

/-- A word that starts with a small letter, has no capital, and is no acronym. -/
def IsPlainWord : List Char → Prop
  | [] => False
  | c :: rest => c ∈ smallLetters ∧ (∀ d ∈ rest, d.isUpper = false ∧ isSeparator d = false) ∧
    isAcronym (Unicode.capitals (c :: rest)) = false

/-- A name of plain words with one underscore between them. -/
def IsPlainName (name : String) : Prop :=
  ∃ parts, (∀ word ∈ parts, IsPlainWord word) ∧ name.toList = ['_'].intercalate parts

theorem isSeparator_of_small {c : Char} (h : c ∈ smallLetters) : isSeparator c = false := by
  have hall : (smallLetters.all fun c => isSeparator c == false) = true := by decide
  exact beq_iff_eq.1 (List.all_eq_true.1 hall c h)

theorem capital_of_small {c : Char} (h : c ∈ smallLetters) : Unicode.capital c = [c.toUpper] := by
  have hall : (smallLetters.all fun c => Unicode.capital c == [c.toUpper]) = true := by decide
  exact beq_iff_eq.1 (List.all_eq_true.1 hall c h)

theorem isUpper_of_small {c : Char} (h : c ∈ smallLetters) : c.toUpper.isUpper = true := by
  have hall : (smallLetters.all fun c => c.toUpper.isUpper) = true := by decide
  exact List.all_eq_true.1 hall c h

theorem toUpper_inj_of_small {c d : Char} (hc : c ∈ smallLetters) (hd : d ∈ smallLetters)
    (h : c.toUpper = d.toUpper) : c = d := by
  have hall : (smallLetters.all fun c => smallLetters.all fun d =>
      c.toUpper != d.toUpper || c == d) = true := by
    decide +kernel
  have hboth := List.all_eq_true.1 (List.all_eq_true.1 hall c hc) d hd
  rw [h] at hboth
  simpa using hboth

/-- A plain word has its first letter as a capital in camel case, and no other capital. -/
theorem camelWord_of_plain {word : List Char} (h : IsPlainWord word) :
    ∃ c rest, c ∈ smallLetters ∧ (∀ d ∈ rest, d.isUpper = false) ∧ word = c :: rest ∧
      camelWord word = c.toUpper :: rest := by
  cases word with
  | nil => exact h.elim
  | cons c rest =>
    obtain ⟨hc, hrest, hacronym⟩ := h
    refine ⟨c, rest, hc, fun d hd => (hrest d hd).1, rfl, ?_⟩
    rw [camelWord]
    simp only [hacronym, Bool.false_eq_true, if_false]
    rw [capitalize, capital_of_small hc, List.singleton_append]

theorem words_of_plain {parts : List (List Char)} (h : ∀ word ∈ parts, IsPlainWord word) :
    words (['_'].intercalate parts) = parts := by
  apply words_intercalate rfl
  · intro word hword hnil
    rw [hnil] at hword
    exact h [] hword
  · intro word hword d hd
    have hplain := h word hword
    cases word with
    | nil => cases hd
    | cons c rest =>
      rcases List.mem_cons.1 hd with rfl | hd
      · exact isSeparator_of_small hplain.1
      · exact (hplain.2.1 d hd).2

/-- What has no capitals ends where the next capital is. -/
theorem takeWhile_append_of_capital {front back : List Char}
    (hfront : ∀ c ∈ front, c.isUpper = false) (hback : ∀ c ∈ back.head?, c.isUpper = true) :
    (front ++ back).takeWhile (fun c => !c.isUpper) = front := by
  have hstop : back.takeWhile (fun c => !c.isUpper) = [] := by
    cases back with
    | nil => rfl
    | cons c more =>
      have hc : c.isUpper = true := hback c rfl
      rw [List.takeWhile_cons, hc]
      rfl
  rw [List.takeWhile_append_of_pos (by simpa using hfront), hstop, List.append_nil]

/-- Texts that go on with a capital, or not at all, are told apart from what follows. -/
theorem append_inj_of_capital {first second rest rest' : List Char}
    (hfirst : ∀ c ∈ first, c.isUpper = false) (hsecond : ∀ c ∈ second, c.isUpper = false)
    (hrest : ∀ c ∈ rest.head?, c.isUpper = true) (hrest' : ∀ c ∈ rest'.head?, c.isUpper = true)
    (h : first ++ rest = second ++ rest') : first = second ∧ rest = rest' := by
  have hfronts : first = second := by
    rw [← takeWhile_append_of_capital hfirst hrest, h,
      takeWhile_append_of_capital hsecond hrest']
  subst hfronts
  exact ⟨rfl, List.append_cancel_left h⟩

theorem isUpper_head_of_plain {parts : List (List Char)} (h : ∀ word ∈ parts, IsPlainWord word) :
    ∀ c ∈ (parts.flatMap camelWord).head?, c.isUpper = true := by
  intro c hc
  cases parts with
  | nil => cases hc
  | cons word rest =>
    obtain ⟨d, more, hd, -, -, hform⟩ := camelWord_of_plain (h word List.mem_cons_self)
    rw [List.flatMap_cons, hform] at hc
    cases hc
    exact isUpper_of_small hd

/-- **The words of a plain name can be told apart in its camel case form.** -/
theorem eq_of_flatMap_camelWord_eq {first second : List (List Char)}
    (hfirst : ∀ word ∈ first, IsPlainWord word) (hsecond : ∀ word ∈ second, IsPlainWord word)
    (h : first.flatMap camelWord = second.flatMap camelWord) : first = second := by
  induction first generalizing second with
  | nil =>
    cases second with
    | nil => rfl
    | cons word rest =>
      obtain ⟨c, more, -, -, -, hform⟩ := camelWord_of_plain (hsecond word List.mem_cons_self)
      rw [List.flatMap_cons, hform] at h
      cases h
  | cons word rest ih =>
    obtain ⟨hword, hrest⟩ := List.forall_mem_cons.1 hfirst
    obtain ⟨c, more, hc, hmore, rfl, hform⟩ := camelWord_of_plain hword
    rw [List.flatMap_cons, hform] at h
    cases second with
    | nil => cases h
    | cons word' rest' =>
      obtain ⟨hword', hrest'⟩ := List.forall_mem_cons.1 hsecond
      obtain ⟨d, more', hd, hmore', rfl, hform'⟩ := camelWord_of_plain hword'
      rw [List.flatMap_cons, hform', List.cons_append, List.cons_append, List.cons.injEq] at h
      obtain ⟨hcapital, htail⟩ := h
      have hletters : c = d := toUpper_inj_of_small hc hd hcapital
      obtain ⟨hends, hforms⟩ := append_inj_of_capital hmore hmore' (isUpper_head_of_plain hrest)
        (isUpper_head_of_plain hrest') htail
      rw [hletters, hends, ih hrest hrest' hforms]

/-- **Different plain names have different camel case forms.** -/
theorem eq_of_upperCamel_eq {first second : String} (hfirst : IsPlainName first)
    (hsecond : IsPlainName second) (h : upperCamel first = upperCamel second) : first = second := by
  obtain ⟨parts, hparts, hname⟩ := hfirst
  obtain ⟨parts', hparts', hname'⟩ := hsecond
  have hchars : upperCamelChars first.toList = upperCamelChars second.toList :=
    String.ofList_injective h
  rw [upperCamelChars, upperCamelChars, hname, hname', words_of_plain hparts,
    words_of_plain hparts'] at hchars
  have heq : parts = parts' := eq_of_flatMap_camelWord_eq hparts hparts' hchars
  apply String.toList_injective
  rw [hname, hname', heq]

end EntSchema.Naming
