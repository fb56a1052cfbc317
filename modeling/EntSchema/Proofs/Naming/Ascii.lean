import EntSchema.Proofs.Naming.Letters

/-!
# Names in ASCII

A character of ASCII has one small form and one capital, both of them in ASCII, and neither form is
a separator where the character is none (`asciiForms`). So a text in ASCII is written in capitals or
in small letters character by character, and a text that no separator divides stays one word in
either form.
-/

namespace EntSchema.Naming

/-! ## The characters of ASCII -/

/-- Small and large forms of a character of ASCII, in the eyes of the naming rules. -/
structure AsciiForms (c : Char) : Prop where
  isAscii_toLower : Unicode.isAscii c.toLower = true
  isAscii_toUpper : Unicode.isAscii c.toUpper = true
  toLower_toLower : c.toLower.toLower = c.toLower
  toUpper_toUpper : c.toUpper.toUpper = c.toUpper
  isSeparator_toLower : isSeparator c.toLower = isSeparator c
  isSeparator_toUpper : isSeparator c.toUpper = isSeparator c
  isUppercase_toLower : Unicode.isUppercase c.toLower = false
  isLowercase_toLower : c.isAlpha = true → Unicode.isLowercase c.toLower = true
  ne_sigma : c ≠ 'Σ'

theorem asciiForms {c : Char} (h : Unicode.isAscii c = true) : AsciiForms c := by
  obtain ⟨hlower, hupper, hlowerTwice, hupperTwice⟩ :=
    forall_ascii (P := fun c => Unicode.isAscii c.toLower = true ∧
      Unicode.isAscii c.toUpper = true ∧ c.toLower.toLower = c.toLower ∧
      c.toUpper.toUpper = c.toUpper) (by decide) h
  obtain ⟨hlowerSeparator, hupperSeparator⟩ :=
    forall_ascii (P := fun c => isSeparator c.toLower = isSeparator c ∧
      isSeparator c.toUpper = isSeparator c) (by decide) h
  obtain ⟨hnotUpper, hsmall, hsigma⟩ :=
    forall_ascii (P := fun c => Unicode.isUppercase c.toLower = false ∧
      (c.isAlpha = true → Unicode.isLowercase c.toLower = true) ∧ c ≠ 'Σ') (by decide) h
  exact
    { isAscii_toLower := hlower
      isAscii_toUpper := hupper
      toLower_toLower := hlowerTwice
      toUpper_toUpper := hupperTwice
      isSeparator_toLower := hlowerSeparator
      isSeparator_toUpper := hupperSeparator
      isUppercase_toLower := hnotUpper
      isLowercase_toLower := hsmall
      ne_sigma := hsigma }

theorem small_of_ascii {c : Char} (h : Unicode.isAscii c = true) :
    Unicode.small c = [c.toLower] := if_pos h

theorem capital_of_ascii {c : Char} (h : Unicode.isAscii c = true) :
    Unicode.capital c = [c.toUpper] := if_pos h

/-- A text in ASCII. -/
def IsAscii (text : List Char) : Prop :=
  ∀ c ∈ text, Unicode.isAscii c = true

section Ascii

variable {text word name : List Char}

theorem capitals_of_ascii (h : IsAscii text) : Unicode.capitals text = text.map Char.toUpper := by
  induction text with
  | nil => rfl
  | cons c rest ih =>
    obtain ⟨hc, hrest⟩ := List.forall_mem_cons.1 h
    show Unicode.capital c ++ Unicode.capitals rest = _
    rw [capital_of_ascii hc, ih hrest]
    rfl

theorem smalls_of_ascii (h : IsAscii text) : Unicode.smalls text = text.map Char.toLower := by
  have hafter : ∀ before, Unicode.smallsAfter before text = text.map Char.toLower := by
    induction text with
    | nil => exact fun _ => rfl
    | cons c rest ih =>
      obtain ⟨hc, hrest⟩ := List.forall_mem_cons.1 h
      intro before
      rw [smallsAfter_cons (asciiForms hc).ne_sigma, small_of_ascii hc, ih hrest]
      rfl
  exact hafter []

/-! ## Texts of one word -/

/-- A text in ASCII that no separator divides. -/
def IsSolid (text : List Char) : Prop :=
  ∀ c ∈ text, Unicode.isAscii c = true ∧ isSeparator c = false

theorem IsSolid.isAscii (h : IsSolid text) : IsAscii text :=
  fun c hc => (h c hc).1

theorem IsSolid.map_toUpper (h : IsSolid text) : IsSolid (text.map Char.toUpper) := by
  intro d hd
  obtain ⟨c, hc, rfl⟩ := List.mem_map.1 hd
  obtain ⟨hascii, hseparator⟩ := h c hc
  exact ⟨(asciiForms hascii).isAscii_toUpper,
    (asciiForms hascii).isSeparator_toUpper.trans hseparator⟩

theorem IsSolid.map_toLower (h : IsSolid text) : IsSolid (text.map Char.toLower) := by
  intro d hd
  obtain ⟨c, hc, rfl⟩ := List.mem_map.1 hd
  obtain ⟨hascii, hseparator⟩ := h c hc
  exact ⟨(asciiForms hascii).isAscii_toLower,
    (asciiForms hascii).isSeparator_toLower.trans hseparator⟩

theorem IsSolid.words (h : IsSolid text) (hne : text ≠ []) : words text = [text] :=
  words_singleton hne fun c hc => (h c hc).2

theorem isSolid_of_mem_words (h : IsAscii name) (hword : word ∈ words name) : IsSolid word := by
  intro c hc
  have hletter : c ∈ letters name := by
    rw [← flatten_words]
    exact List.mem_flatten.2 ⟨word, hword, hc⟩
  obtain ⟨hname, hseparator⟩ := List.mem_filter.1 hletter
  exact ⟨h c hname, by simpa using hseparator⟩

end Ascii

end EntSchema.Naming
