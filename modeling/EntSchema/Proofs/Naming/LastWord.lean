import EntSchema.Naming.Plural
import EntSchema.Proofs.Naming.Letters

/-!
# Inflection of the last word

What comes up to the last separator of a name stays, and the word behind it is inflected as it would
be on its own. This and what is settled by the lists of words hold whatever the rules for all other
words are, so the laws are stated for every pair of rules (`InflectsLastWord`).
-/

namespace EntSchema.Naming

/-! ## What the laws are about -/

/-- Nothing, or characters of which the last one is a separator. -/
def EndsInSeparator (front : List Char) : Prop :=
  ∀ c ∈ front.getLast?, isSeparator c = true

theorem endsInSeparator_nil : EndsInSeparator [] := nofun

/-- One character or more, and no separator. -/
structure IsWord (word : List Char) : Prop where
  some : word ≠ []
  noSeparator : ∀ c ∈ word, isSeparator c = false

instance (word : List Char) : Decidable (IsWord word) :=
  decidable_of_iff (word ≠ [] ∧ word.all (!isSeparator ·) = true) (by
    simp only [List.all_eq_true, Bool.not_eq_true']
    exact ⟨fun h => ⟨h.1, h.2⟩, fun h => ⟨h.some, h.noSeparator⟩⟩)

/-- The plural of a name, with `rule` for the words that no list has. -/
def pluralizeBy (rule : String → String) (name : String) : String :=
  let plural := String.ofList (inflectName (inflectWord irregularPairs rule) name.toList)
  if plural = name then name ++ pluralSuffix else plural

/-- The pairs of a plural and its singular. -/
def irregularSingulars : List (String × String) :=
  irregularPairs.map fun (singular, plural) => (plural, singular)

/-- The singular of a name, with `rule` for the words that no list has. -/
def singularizeBy (rule : String → String) (name : String) : String :=
  String.ofList (inflectName (inflectWord irregularSingulars rule) name.toList)

theorem pluralize_eq : pluralize = pluralizeBy rulePlural := rfl

theorem singularize_eq : singularize = singularizeBy ruleSingular := rfl

/-- The laws of inflection: only the last word changes, a plural always differs from its name, and
the words of the lists are settled in either direction. -/
structure InflectsLastWord (plural singular : String → String) : Prop where
  plural_append : ∀ front word : String, EndsInSeparator front.toList → IsWord word.toList →
    plural (front ++ word) = front ++ plural word
  singular_append : ∀ front word : String, EndsInSeparator front.toList → IsWord word.toList →
    singular (front ++ word) = front ++ singular word
  /-- A name that ends in a separator has no word to inflect. -/
  no_word : ∀ name : String, EndsInSeparator name.toList →
    singular name = name ∧ plural name = name ++ "Slice"
  plural_ne : ∀ name, plural name ≠ name
  /-- An uncountable word stays, in any case. -/
  uncountable : ∀ word ∈ uncountableWords, ∀ variant : String,
    Raised word.toList variant.toList →
      singular variant = variant ∧ plural variant = variant ++ "Slice"
  /-- An irregular singular comes back, in small letters or with a capital first letter. -/
  irregular : ∀ pair ∈ irregularPairs, ∀ word ∈ [pair.1.toList, capitalize pair.1.toList],
    ∀ front : String, EndsInSeparator front.toList →
      singular (plural (front ++ String.ofList word)) = front ++ String.ofList word

/-! ## The last word of a name -/

section Split

variable {front word : List Char} {inflect : List Char → List Char}

theorem splitLastWord_of_noSeparator (h : ∀ c ∈ word, isSeparator c = false) :
    splitLastWord word = ([], word) := by
  induction word with
  | nil => rfl
  | cons c rest ih =>
    obtain ⟨hc, hrest⟩ := List.forall_mem_cons.1 h
    rw [splitLastWord, ih hrest, hc]
    rfl

/-- **A name is split behind its last separator.** -/
theorem splitLastWord_append (hfront : EndsInSeparator front)
    (hword : ∀ c ∈ word, isSeparator c = false) :
    splitLastWord (front ++ word) = (front, word) := by
  induction front with
  | nil => exact splitLastWord_of_noSeparator hword
  | cons c rest ih =>
    rw [List.cons_append, splitLastWord]
    -- Whether a character is a separator matters right in front of the word only.
    cases rest with
    | nil =>
      have hc : isSeparator c = true := hfront c rfl
      rw [List.nil_append, splitLastWord_of_noSeparator hword, hc]
      rfl
    | cons d more =>
      have hrest : EndsInSeparator (d :: more) := by
        rw [EndsInSeparator, List.getLast?_cons_cons] at hfront
        exact hfront
      rw [ih hrest]
      rfl

theorem inflectName_append (hfront : EndsInSeparator front) (hword : IsWord word) :
    inflectName inflect (front ++ word) = front ++ inflect word := by
  rw [inflectName, splitLastWord_append hfront hword.noSeparator]
  exact if_neg fun hempty => hword.some (List.isEmpty_iff.1 hempty)

theorem inflectName_of_isWord (h : IsWord word) : inflectName inflect word = inflect word :=
  inflectName_append endsInSeparator_nil h

/-- A name that ends in a separator stays. -/
theorem inflectName_of_front (h : EndsInSeparator front) : inflectName inflect front = front := by
  have hnone : ∀ c ∈ ([] : List Char), isSeparator c = false := List.forall_mem_nil _
  have hsplit : splitLastWord front = (front, []) := by
    rw [← splitLastWord_append h hnone, List.append_nil]
  rw [inflectName, hsplit]
  rfl

end Split

/-! ## The words of the lists -/

section Words

variable {pairs : List (String × String)} {rule : String → String} {word form : List Char}

/-- A word that is listed as one that stays. -/
def Stays (pairs : List (String × String)) (word : List Char) : Prop :=
  (uncountableWords.contains (lookupForm word) || pairs.any (·.2 == lookupForm word)) = true

instance (pairs : List (String × String)) (word : List Char) : Decidable (Stays pairs word) :=
  inferInstanceAs (Decidable (_ = true))

theorem inflectWord_of_stays (h : Stays pairs word) : inflectWord pairs rule word = word := by
  rw [inflectWord]
  exact if_pos h

/-- What a word becomes by the list of pairs; none for a word that stays or goes by the rules. -/
def listed? (pairs : List (String × String)) (word : List Char) : Option (List Char) :=
  if Stays pairs word then none
  else (pairs.lookup (lookupForm word)).map fun partner => matchCase word partner.toList

theorem inflectWord_of_listed (h : listed? pairs word = some form) :
    inflectWord pairs rule word = form := by
  rw [listed?] at h
  split at h
  · cases h
  · rename_i hnot
    obtain ⟨partner, hpartner, rfl⟩ := Option.map_eq_some_iff.1 h
    rw [inflectWord]
    simp only [hpartner]
    exact if_neg hnot

theorem small_of_uncountable {word : String} (h : word ∈ uncountableWords) :
    ∀ c ∈ word.toList, c ∈ smallLetters := by
  have hall : (uncountableWords.all fun word => word.toList.all smallLetters.contains) = true := by
    decide +kernel
  have hword := List.all_eq_true.1 hall word h
  simpa only [List.all_eq_true, List.contains_iff_mem] using hword

/-- Letters in any case are no separators. -/
theorem noSeparator_of_raised (hsmall : ∀ c ∈ word, c ∈ smallLetters) (h : Raised word form) :
    ∀ c ∈ form, isSeparator c = false := by
  induction h with
  | nil => exact List.forall_mem_nil _
  | keep c _ ih =>
    obtain ⟨hc, hrest⟩ := List.forall_mem_cons.1 hsmall
    exact List.forall_mem_cons.2 ⟨isSeparator_of_small hc, ih hrest⟩
  | raise c _ ih =>
    obtain ⟨hc, hrest⟩ := List.forall_mem_cons.1 hsmall
    rw [capital_of_small hc, List.singleton_append]
    exact List.forall_mem_cons.2 ⟨(twoCases hc).isSeparator_capital, ih hrest⟩

theorem isWord_of_uncountable {word : String} (hword : word ∈ uncountableWords)
    (h : Raised word.toList form) : IsWord form := by
  have hsome : ∀ word ∈ uncountableWords, word.toList ≠ [] := by decide
  have hsmall := small_of_uncountable hword
  refine ⟨?_, noSeparator_of_raised hsmall h⟩
  intro hnil
  have hform : Unicode.smalls form = word.toList := smalls_of_raised hsmall h
  rw [hnil] at hform
  exact hsome word hword hform.symm

/-- An uncountable word is looked up in small letters, and so it stays in any case. -/
theorem stays_of_uncountable {word : String} (hword : word ∈ uncountableWords)
    (h : Raised word.toList form) : Stays pairs form := by
  have hform : lookupForm form = word := by
    rw [lookupForm, smalls_of_raised (small_of_uncountable hword) h, String.ofList_toList]
  rw [Stays, hform, List.contains_iff_mem.2 hword]
  rfl

/-- The list leads from a singular to another word and from there back, and a capital first letter
goes along. -/
theorem listed_of_irregular : ∀ pair ∈ irregularPairs,
    ∀ word ∈ [pair.1.toList, capitalize pair.1.toList],
      IsWord word ∧ IsWord (matchCase word pair.2.toList) ∧ matchCase word pair.2.toList ≠ word ∧
        listed? irregularPairs word = some (matchCase word pair.2.toList) ∧
        listed? irregularSingulars (matchCase word pair.2.toList) = some word := by
  decide +kernel

end Words

/-! ## Names -/

section Names

variable {inflect : List Char → List Char} {rule : String → String} {front word name : String}
  {pairs : List (String × String)} {chars form : List Char}

theorem ofList_inflectName_append (hfront : EndsInSeparator front.toList)
    (hword : IsWord word.toList) :
    String.ofList (inflectName inflect (front ++ word).toList) =
      front ++ String.ofList (inflectName inflect word.toList) := by
  rw [String.toList_append, inflectName_append hfront hword, inflectName_of_isWord hword,
    String.ofList_append, String.ofList_toList]

/-- The suffix is added to a name exactly when it would be added to its last word. -/
theorem pluralizeBy_append (hfront : EndsInSeparator front.toList) (hword : IsWord word.toList) :
    pluralizeBy rule (front ++ word) = front ++ pluralizeBy rule word := by
  rw [pluralizeBy, pluralizeBy]
  simp only [ofList_inflectName_append hfront hword, String.append_right_inj]
  split
  · exact String.append_assoc
  · rfl

theorem singularizeBy_append (hfront : EndsInSeparator front.toList) (hword : IsWord word.toList) :
    singularizeBy rule (front ++ word) = front ++ singularizeBy rule word :=
  ofList_inflectName_append hfront hword

theorem pluralizeBy_ne (rule : String → String) (name : String) : pluralizeBy rule name ≠ name := by
  rw [pluralizeBy]
  split
  · intro heq
    exact absurd (String.append_eq_left_iff.1 heq) (by decide)
  · assumption

/-- A name with the plural word that it has already takes the suffix. -/
theorem pluralizeBy_of_fixed
    (h : inflectName (inflectWord irregularPairs rule) name.toList = name.toList) :
    pluralizeBy rule name = name ++ "Slice" := by
  rw [pluralizeBy, h, String.ofList_toList]
  exact if_pos rfl

theorem singularizeBy_of_fixed
    (h : inflectName (inflectWord irregularSingulars rule) name.toList = name.toList) :
    singularizeBy rule name = name := by
  rw [singularizeBy, h, String.ofList_toList]

/-- An uncountable word stays as a name. -/
theorem inflectName_of_uncountable {variant : String} (hword : word ∈ uncountableWords)
    (h : Raised word.toList variant.toList) :
    inflectName (inflectWord pairs rule) variant.toList = variant.toList := by
  rw [inflectName_of_isWord (isWord_of_uncountable hword h),
    inflectWord_of_stays (stays_of_uncountable hword h)]

/-- The plural of a name whose last word the list takes to another one. -/
theorem pluralizeBy_of_listed (hfront : EndsInSeparator front.toList) (hword : IsWord chars)
    (hne : form ≠ chars) (h : listed? irregularPairs chars = some form) :
    pluralizeBy rule (front ++ String.ofList chars) = front ++ String.ofList form := by
  have hisWord : IsWord (String.ofList chars).toList := by rwa [String.toList_ofList]
  rw [pluralizeBy_append hfront hisWord, pluralizeBy, String.toList_ofList,
    inflectName_of_isWord hword, inflectWord_of_listed h]
  exact congrArg (front ++ ·) (if_neg fun heq => hne (String.ofList_injective heq))

/-- The singular of a name whose last word the list takes to another one. -/
theorem singularizeBy_of_listed (hfront : EndsInSeparator front.toList) (hword : IsWord chars)
    (h : listed? irregularSingulars chars = some form) :
    singularizeBy rule (front ++ String.ofList chars) = front ++ String.ofList form := by
  have hisWord : IsWord (String.ofList chars).toList := by rwa [String.toList_ofList]
  rw [singularizeBy_append hfront hisWord, singularizeBy, String.toList_ofList,
    inflectName_of_isWord hword, inflectWord_of_listed h]

/-- **The laws hold for all rules.** -/
theorem inflectsLastWord_by (plural singular : String → String) :
    InflectsLastWord (pluralizeBy plural) (singularizeBy singular) where
  plural_append _ _ := pluralizeBy_append
  singular_append _ _ := singularizeBy_append
  no_word _ h := ⟨singularizeBy_of_fixed (inflectName_of_front h),
    pluralizeBy_of_fixed (inflectName_of_front h)⟩
  plural_ne := pluralizeBy_ne plural
  uncountable _ hword _ h := ⟨singularizeBy_of_fixed (inflectName_of_uncountable hword h),
    pluralizeBy_of_fixed (inflectName_of_uncountable hword h)⟩
  irregular pair hpair word hword front hfront := by
    obtain ⟨hisWord, hisPlural, hne, hplural, hsingular⟩ :=
      listed_of_irregular pair hpair word hword
    rw [pluralizeBy_of_listed hfront hisWord hne hplural,
      singularizeBy_of_listed hfront hisPlural hsingular]

/-- **Inflection touches the last word only**, whatever the rules are that it goes by. -/
theorem inflection_lastWord :
    InflectsLastWord pluralize singularize ∧
      ∀ plural singular, InflectsLastWord (pluralizeBy plural) (singularizeBy singular) := by
  refine ⟨?_, inflectsLastWord_by⟩
  rw [pluralize_eq, singularize_eq]
  exact inflectsLastWord_by rulePlural ruleSingular

example : pluralize "team_Person" = "team_People" ∧ singularize "team_People" = "team_Person" ∧
    pluralize "SHEEP" = "SHEEPSlice" := by
  decide +kernel

end Names

end EntSchema.Naming
