import EntSchema.Proofs.Naming.Identifiers
import EntSchema.Proofs.Naming.RoundTrip
import EntSchema.Proofs.Naming.Separators
import EntSchema.Proofs.Naming.Snake

/-!
# Names that are in their form already

Writing a name in snake case or in camel case a second time reads what the first time has written.
In ASCII that is known well enough:

* Snake case leaves no capitals, and it divides a name in front of capitals only. So a name in snake
  case stays (`snakeChars_of_noCapitals`).
* Camel case leaves no separators, so a name in camel case is a single word. It begins with a
  capital already, but it is a word by itself now, and as such it can be an acronym that its parts
  are not: `h_tml` becomes `HTml`, and that becomes `HTML`. Acronyms stay
  (`upperCamelChars_acronym`).
* A name that begins with a small letter stays in lower camel case, and the first word of a name
  gets a small letter if it begins with a letter at all (`exists_leadingWord`).
-/

namespace EntSchema.Naming

section Idempotence

variable {text word name rest : List Char} {c previous : Char} {flag : Bool}

/-! ## Snake case -/

/-- What has no capitals is not divided. -/
theorem snakeAfter_of_noCapitals
    (h : ∀ c ∈ text, Unicode.isUppercase c = false ∧ Unicode.small c = [c]) :
    snakeAfter previous flag text = text := by
  induction text generalizing previous flag with
  | nil => rfl
  | cons c rest ih =>
    obtain ⟨⟨hupper, hsmall⟩, hrest⟩ := List.forall_mem_cons.1 h
    rw [snakeAfter_of_no_start, hsmall, ih hrest]
    · rfl
    · intro next _
      rw [startsWord, hupper, Bool.false_and]

theorem snakeChars_of_noCapitals
    (h : ∀ c ∈ text, Unicode.isUppercase c = false ∧ Unicode.small c = [c]) :
    snakeChars text = text := by
  cases text with
  | nil => rfl
  | cons c rest =>
    obtain ⟨⟨-, hsmall⟩, hrest⟩ := List.forall_mem_cons.1 h
    rw [snakeChars, hsmall, snakeAfter_of_noCapitals hrest]
    rfl

/-- Snake case consists of underscores and small forms. -/
theorem mem_snakeChars {d : Char} (h : d ∈ snakeChars name) :
    d = '_' ∨ ∃ c ∈ name, d ∈ Unicode.small c := by
  rw [snakeChars_eq_divided, divided] at h
  obtain ⟨piece, hpiece, hd⟩ := List.mem_flatten.1 h
  obtain ⟨i, hi, rfl⟩ := List.mem_mapIdx.1 hpiece
  have hc : name[i] ∈ name := List.getElem_mem hi
  split at hd
  · rcases List.mem_cons.1 hd with hunderscore | hsmall
    · exact .inl hunderscore
    · exact .inr ⟨_, hc, hsmall⟩
  · exact .inr ⟨_, hc, hd⟩

/-- **A name in snake case stays.** -/
theorem snakeChars_snakeChars (h : IsAscii name) :
    snakeChars (snakeChars name) = snakeChars name := by
  apply snakeChars_of_noCapitals
  intro d hd
  rcases mem_snakeChars hd with rfl | ⟨c, hc, hsmall⟩
  · decide
  · have hforms := asciiForms (h c hc)
    rw [small_of_ascii (h c hc), List.mem_singleton] at hsmall
    rw [hsmall, small_of_ascii hforms.isAscii_toLower, hforms.toLower_toLower]
    exact ⟨hforms.isUppercase_toLower, rfl⟩

/-! ## Upper camel case -/

theorem IsSolid.camelWord (h : IsSolid word) : IsSolid (camelWord word) := by
  cases word with
  | nil => exact List.forall_mem_nil _
  | cons c rest =>
    obtain ⟨-, hrest⟩ := List.forall_mem_cons.1 h
    obtain ⟨hfirst, hcapitals⟩ := List.forall_mem_cons.1 h.map_toUpper
    obtain ⟨tail, hform, htail⟩ := exists_camelWord h.isAscii
    rw [hform]
    refine List.forall_mem_cons.2 ⟨hfirst, ?_⟩
    cases htail with
    | small _ => exact hrest
    | capitals _ => exact hcapitals

/-- Camel case leaves no separators. -/
theorem isSolid_upperCamelChars (h : IsAscii name) : IsSolid (upperCamelChars name) := by
  intro c hc
  obtain ⟨word, hword, hform⟩ := List.mem_flatMap.1 hc
  exact (isSolid_of_mem_words h hword).camelWord c hform

/-- A name in camel case begins with a capital already. -/
theorem capitalize_upperCamelChars (h : IsAscii name) :
    capitalize (upperCamelChars name) = upperCamelChars name := by
  cases hwords : words name with
  | nil =>
    rw [upperCamelChars, hwords]
    rfl
  | cons first others =>
    have hmem : first ∈ words name := hwords ▸ List.mem_cons_self
    have hascii := (isSolid_of_mem_words h hmem).isAscii
    obtain ⟨c, rest, rfl⟩ := List.exists_cons_of_ne_nil (ne_nil_of_mem_words hmem)
    have hc := asciiForms (hascii c List.mem_cons_self)
    obtain ⟨tail, hform, -⟩ := exists_camelWord hascii
    rw [upperCamelChars, hwords, List.flatMap_cons, hform, List.cons_append, capitalize,
      capital_of_ascii hc.isAscii_toUpper, hc.toUpper_toUpper, List.singleton_append]

theorem upperCamelChars_of_solid (h : IsSolid text) (hne : text ≠ []) :
    upperCamelChars text = camelWord text := by
  rw [upperCamelChars, h.words hne, List.flatMap_singleton]

/-- **Camel case is read as one word**, which stays as long as it is no acronym. -/
theorem upperCamelChars_twice_of_plain (h : IsAscii name)
    (hplain : isAcronym (Unicode.capitals (upperCamelChars name)) = false) :
    upperCamelChars (upperCamelChars name) = upperCamelChars name := by
  by_cases hne : upperCamelChars name = []
  · rw [hne]
    rfl
  · rw [upperCamelChars_of_solid (isSolid_upperCamelChars h) hne, camelWord]
    simp only [hplain, Bool.false_eq_true, if_false]
    exact capitalize_upperCamelChars h

/-- **If it is an acronym**, it is written as one. -/
theorem upperCamelChars_twice_of_acronym (h : IsAscii name)
    (hacronym : isAcronym (Unicode.capitals (upperCamelChars name)) = true) :
    upperCamelChars (upperCamelChars name) = Unicode.capitals (upperCamelChars name) := by
  have hne : upperCamelChars name ≠ [] := by
    intro hnil
    rw [hnil] at hacronym
    cases hacronym
  rw [upperCamelChars_of_solid (isSolid_upperCamelChars h) hne, camelWord]
  simp only [hacronym, if_true]

/-- An acronym stays. -/
theorem upperCamelChars_acronym (h : isAcronym word = true) : upperCamelChars word = word := by
  have hall : (acronyms.all fun acronym =>
      upperCamelChars acronym.toList == acronym.toList) = true := by
    decide +kernel
  obtain ⟨acronym, hmem, hword⟩ := List.any_eq_true.1 h
  obtain rfl := beq_iff_eq.1 hword
  exact beq_iff_eq.1 (List.all_eq_true.1 hall acronym hmem)

/-! ## Lower camel case -/

/-- The first word begins with its first character as a small letter, and what follows is as it was
or in small letters as well. -/
theorem exists_leadingWord (h : IsAscii (c :: rest)) :
    ∃ tail, leadingWord (c :: rest) = c.toLower :: tail ∧
      (tail = rest ∨ tail = rest.map Char.toLower) := by
  rw [leadingWord]
  split
  · exact ⟨_, smalls_of_ascii h, .inr rfl⟩
  · refine ⟨rest, ?_, .inl rfl⟩
    rw [small_of_ascii (h c List.mem_cons_self), List.singleton_append]

theorem IsSolid.leadingWord (h : IsSolid word) : IsSolid (leadingWord word) := by
  cases word with
  | nil => exact List.forall_mem_nil _
  | cons c rest =>
    obtain ⟨-, hrest⟩ := List.forall_mem_cons.1 h
    obtain ⟨hfirst, hsmalls⟩ := List.forall_mem_cons.1 h.map_toLower
    obtain ⟨tail, hform, htail⟩ := exists_leadingWord h.isAscii
    rw [hform]
    refine List.forall_mem_cons.2 ⟨hfirst, ?_⟩
    rcases htail with rfl | rfl
    · exact hrest
    · exact hsmalls

theorem isSolid_lowerCamelChars (h : IsAscii name) : IsSolid (lowerCamelChars name) := by
  have hwords : ∀ word ∈ words name, IsSolid word := fun word => isSolid_of_mem_words h
  rw [lowerCamelChars]
  split
  · exact List.forall_mem_nil _
  · rename_i first others hsplit
    rw [hsplit] at hwords
    obtain ⟨hfirst, hothers⟩ := List.forall_mem_cons.1 hwords
    refine List.forall_mem_append.2 ⟨hfirst.leadingWord, ?_⟩
    intro c hc
    obtain ⟨word, hword, hform⟩ := List.mem_flatMap.1 hc
    exact (hothers word hword).camelWord c hform

/-- A word that begins with a small letter stays. -/
theorem leadingWord_of_small (hlower : Unicode.isLowercase c = true)
    (hsmall : Unicode.small c = [c]) : leadingWord (c :: rest) = c :: rest := by
  rw [leadingWord, List.all_cons, hlower, hsmall]
  rfl

/-- **A name in lower camel case stays**, if its first word began with a letter. -/
theorem lowerCamelChars_twice (h : IsAscii name)
    (hletter : ∀ word ∈ (words name).head?, ∀ c ∈ word.head?, c.isAlpha = true) :
    lowerCamelChars (lowerCamelChars name) = lowerCamelChars name := by
  cases hwords : words name with
  | nil =>
    have hnone : lowerCamelChars name = [] := by rw [lowerCamelChars, hwords]
    rw [hnone]
    rfl
  | cons first others =>
    have hmem : first ∈ words name := hwords ▸ List.mem_cons_self
    have hascii := (isSolid_of_mem_words h hmem).isAscii
    obtain ⟨c, rest, rfl⟩ := List.exists_cons_of_ne_nil (ne_nil_of_mem_words hmem)
    have hc := asciiForms (hascii c List.mem_cons_self)
    have hsmall : Unicode.isLowercase c.toLower = true :=
      hc.isLowercase_toLower (hletter _ (by rw [hwords]; rfl) c rfl)
    obtain ⟨tail, hform, -⟩ := exists_leadingWord hascii
    have hname : lowerCamelChars name = c.toLower :: (tail ++ others.flatMap camelWord) := by
      rw [lowerCamelChars_of_words hwords, hform, List.cons_append]
    -- What was the first word is now the beginning of the only one.
    have hsingle := (isSolid_lowerCamelChars h).words (by rw [hname]; exact List.cons_ne_nil _ _)
    rw [lowerCamelChars_of_words hsingle, List.flatMap_nil, List.append_nil, hname]
    exact leadingWord_of_small hsmall
      ((small_of_ascii hc.isAscii_toLower).trans (congrArg ([·]) hc.toLower_toLower))

end Idempotence

/-- **A name in ASCII that is in its form already stays**: in snake case, in upper camel case, and
in lower camel case if its first word began with a letter. The exception is a name in upper camel
case that spells an acronym as a whole. It becomes that acronym, and then it stays. -/
theorem forms_twice {name : String} (h : ∀ c ∈ name.toList, Unicode.isAscii c = true) :
    snake (snake name) = snake name ∧
      (isAcronym (Unicode.capitals (upperCamel name).toList) = false →
        upperCamel (upperCamel name) = upperCamel name) ∧
      (isAcronym (Unicode.capitals (upperCamel name).toList) = true →
        upperCamel (upperCamel name) = String.ofList (Unicode.capitals (upperCamel name).toList) ∧
          upperCamel (upperCamel (upperCamel name)) = upperCamel (upperCamel name)) ∧
      ((∀ word ∈ (words name.toList).head?, ∀ c ∈ word.head?, c.isAlpha = true) →
        lowerCamel (lowerCamel name) = lowerCamel name) := by
  have hupper : (upperCamel name).toList = upperCamelChars name.toList := String.toList_ofList
  have hagain (name : String) : upperCamel (upperCamel name) =
      String.ofList (upperCamelChars (upperCamelChars name.toList)) := by
    rw [upperCamel, upperCamel, String.toList_ofList]
  refine ⟨?_, ?_, ?_, ?_⟩
  · rw [snake, snake, String.toList_ofList, snakeChars_snakeChars h]
  · intro hplain
    rw [hupper] at hplain
    rw [hagain, upperCamelChars_twice_of_plain h hplain]
    rfl
  · intro hacronym
    rw [hupper] at hacronym ⊢
    have hsecond := upperCamelChars_twice_of_acronym h hacronym
    constructor
    · rw [hagain, hsecond]
    · rw [hagain, hagain, hupper, hsecond, upperCamelChars_acronym hacronym]
  · intro hletter
    rw [lowerCamel, lowerCamel, String.toList_ofList, lowerCamelChars_twice h hletter]

/-- `HTml` is made of two words and spells an acronym as one. -/
theorem hTml_twice :
    (∀ c ∈ "h_tml".toList, Unicode.isAscii c = true) ∧ upperCamel "h_tml" = "HTml" ∧
      upperCamel (upperCamel "h_tml") = "HTML" ∧
      upperCamel (upperCamel (upperCamel "h_tml")) = "HTML" ∧
      upperCamel (upperCamel "user_id") = "UserID" ∧ lowerCamel (lowerCamel "user_id") = "userID" ∧
      snake (snake "HTTPCode") = "http_code" := by
  have hascii : ∀ c ∈ "h_tml".toList, Unicode.isAscii c = true :=
    List.all_eq_true.1 (by decide)
  have hascii' : ∀ c ∈ "user_id".toList, Unicode.isAscii c = true :=
    List.all_eq_true.1 (by decide)
  have hascii'' : ∀ c ∈ "HTTPCode".toList, Unicode.isAscii c = true :=
    List.all_eq_true.1 (by decide)
  have hletter : ∀ word ∈ (words "user_id".toList).head?, ∀ c ∈ word.head?, c.isAlpha = true := by
    intro word hword c hc
    cases hword
    cases hc
    decide
  obtain ⟨-, -, hacronym, -⟩ := forms_twice hascii
  obtain ⟨-, hplain, -, hlower⟩ := forms_twice hascii'
  obtain ⟨hsnake, -, -, -⟩ := forms_twice hascii''
  obtain ⟨hsecond, hthird⟩ := hacronym (by decide +kernel)
  have hspelled : upperCamel (upperCamel "h_tml") = "HTML" := hsecond.trans (by decide +kernel)
  refine ⟨hascii, by decide +kernel, hspelled, hthird.trans hspelled, ?_, ?_, ?_⟩
  · exact (hplain (by decide +kernel)).trans (by decide +kernel)
  · exact (hlower hletter).trans (by decide +kernel)
  · exact hsnake.trans (by decide)

end EntSchema.Naming
