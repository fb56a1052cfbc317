import EntSchema.Naming.Snake
import EntSchema.Proofs.Naming.Camel

/-!
# Letters in two cases

Each letter of a plain word is a small letter with one capital, and the two are told apart by every
question that the naming rules ask of a character (`twoCases`). So a plain word is found again in
every way to write some of its letters in capitals (`smalls_of_raised`).

Of all other characters one thing is used: their small forms have no underscores
(`underscore_not_mem_small`).
-/

namespace EntSchema.Naming

/-! ## Small letters and their capitals -/

/-- A small letter with one capital, in the eyes of the naming rules. -/
structure TwoCases (c : Char) : Prop where
  small : Unicode.small c = [c]
  small_capital : Unicode.small c.toUpper = [c]
  isLowercase : Unicode.isLowercase c = true
  isLowercase_capital : Unicode.isLowercase c.toUpper = false
  isUppercase : Unicode.isUppercase c = false
  isUppercase_capital : Unicode.isUppercase c.toUpper = true
  isAlphabetic : Unicode.isAlphabetic c = true
  isAlphabetic_capital : Unicode.isAlphabetic c.toUpper = true
  isSeparator_capital : isSeparator c.toUpper = false
  ne_sigma : c ≠ 'Σ'
  capital_ne_sigma : c.toUpper ≠ 'Σ'

section TwoCases

variable {c : Char} {text raised : List Char}

theorem twoCases (h : c ∈ smallLetters) : TwoCases c := by
  have hforms : (smallLetters.all fun c =>
      decide (Unicode.small c = [c] ∧ Unicode.small c.toUpper = [c])) = true := by decide
  have hsmall : (smallLetters.all fun c => decide (Unicode.isLowercase c = true ∧
      Unicode.isUppercase c = false ∧ Unicode.isAlphabetic c = true ∧ c ≠ 'Σ')) = true := by
    decide
  have hcapital : (smallLetters.all fun c => decide (Unicode.isLowercase c.toUpper = false ∧
      Unicode.isUppercase c.toUpper = true ∧ Unicode.isAlphabetic c.toUpper = true ∧
      isSeparator c.toUpper = false ∧ c.toUpper ≠ 'Σ')) = true := by
    decide
  obtain ⟨hself, hback⟩ := of_decide_eq_true (List.all_eq_true.1 hforms c h)
  obtain ⟨hlower, hnotUpper, halphabetic, hsigma⟩ :=
    of_decide_eq_true (List.all_eq_true.1 hsmall c h)
  obtain ⟨hnotLower, hupper, halphabetic', hseparator, hsigma'⟩ :=
    of_decide_eq_true (List.all_eq_true.1 hcapital c h)
  exact
    { small := hself
      small_capital := hback
      isLowercase := hlower
      isLowercase_capital := hnotLower
      isUppercase := hnotUpper
      isUppercase_capital := hupper
      isAlphabetic := halphabetic
      isAlphabetic_capital := halphabetic'
      isSeparator_capital := hseparator
      ne_sigma := hsigma
      capital_ne_sigma := hsigma' }

theorem smallsAfter_cons {before rest : List Char} (h : c ≠ 'Σ') :
    Unicode.smallsAfter before (c :: rest) =
      Unicode.small c ++ Unicode.smallsAfter (c :: before) rest := by
  rw [Unicode.smallsAfter, if_neg (by simpa using h)]

/-- **Small letters come back, whichever of them are written as capitals.** -/
theorem smalls_of_raised (h : ∀ c ∈ text, c ∈ smallLetters) (hraised : Raised text raised) :
    Unicode.smalls raised = text := by
  have hafter : ∀ before, Unicode.smallsAfter before raised = text := by
    induction hraised with
    | nil => exact fun _ => rfl
    | keep c _ ih =>
      obtain ⟨hc, hrest⟩ := List.forall_mem_cons.1 h
      intro before
      rw [smallsAfter_cons (twoCases hc).ne_sigma, (twoCases hc).small, ih hrest]
      rfl
    | raise c _ ih =>
      obtain ⟨hc, hrest⟩ := List.forall_mem_cons.1 h
      intro before
      rw [capital_of_small hc, List.singleton_append,
        smallsAfter_cons (twoCases hc).capital_ne_sigma, (twoCases hc).small_capital, ih hrest]
      rfl
  exact hafter []

end TwoCases

/-! ## Small forms of other characters -/

section Underscores

variable {c : Char} {n : Nat}

/-- A property of the characters of ASCII is checked code by code. -/
theorem forall_ascii {P : Char → Prop} (h : ∀ n < 128, P (Char.ofNat n))
    (hascii : Unicode.isAscii c = true) : P c := by
  rw [← Char.ofNat_toNat c]
  exact h c.toNat (of_decide_eq_true hascii)

theorem exists_small_eq (c : Char) : ∃ d rest, Unicode.small c = d :: rest := by
  rw [Unicode.small]
  split
  · exact ⟨_, _, rfl⟩
  split
  · exact ⟨_, _, rfl⟩
  · exact ⟨_, _, rfl⟩

theorem toLower_ne_underscore (hascii : Unicode.isAscii c = true) (h : c ≠ '_') :
    c.toLower ≠ '_' :=
  forall_ascii (P := fun c => c ≠ '_' → c.toLower ≠ '_') (by decide) hascii h

theorem eq_of_ofNat_eq_underscore (h : Char.ofNat n = '_') : n = 95 := by
  by_cases hvalid : n.isValidChar
  · have hchar : Char.ofNat n = Char.ofNatAux n hvalid := dif_pos hvalid
    exact congrArg Char.toNat (hchar.symm.trans h)
  · have hnone : Char.ofNat n = Char.ofNat 0 := dif_neg hvalid
    exact absurd (hnone.symm.trans h) (by decide)

/-- The table of small forms leads to characters beyond the underscore only. -/
theorem moveCase_ne_underscore (h : c ≠ '_') :
    Unicode.moveCase Unicode.toSmallSpans c ≠ '_' := by
  have hall : (Unicode.toSmallSpans.all fun entry =>
      decide (95 < (entry.span.first : Int) + entry.offset)) = true := by
    decide
  rw [Unicode.moveCase]
  split
  · rename_i entry hfind
    have hfound := List.find?_some hfind
    have hholds : entry.span.holds c.toNat = true := hfound
    have hbeyond := List.all_eq_true.1 hall entry (List.mem_of_find?_eq_some hfind)
    rw [Unicode.Span.holds, Bool.and_eq_true, Bool.and_eq_true, decide_eq_true_eq] at hholds
    rw [decide_eq_true_eq] at hbeyond
    intro heq
    have hcode := eq_of_ofNat_eq_underscore heq
    omega
  · exact h

/-- **Small forms have no underscores.** -/
theorem underscore_not_mem_small (h : c ≠ '_') : '_' ∉ Unicode.small c := by
  rw [Unicode.small]
  split
  · rename_i hascii
    rw [List.mem_singleton]
    exact (toLower_ne_underscore hascii h).symm
  split
  · decide
  · rw [List.mem_singleton]
    exact (moveCase_ne_underscore h).symm

end Underscores

end EntSchema.Naming
