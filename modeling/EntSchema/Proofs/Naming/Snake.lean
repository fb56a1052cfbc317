import EntSchema.Proofs.Naming.Letters

/-!
# Where snake case divides a name

Snake case puts an underscore in front of the capitals that start a word. Whether a capital does
depends on its two neighbours, and on whether the one before it starts a word itself: a word that
has just begun is not divided again between two capitals. So the rule goes from each character to
the next (`WordStarts`). It decides every place when it is said whether the first character counts
as the start of a word (`WordStarts.unique`), and nothing but the underscores at those places is
added to the small forms of the characters (`divided`).

In snake case the first character counts (`snakeChars_eq_divided`). There is no underscore in front
of it, so a rule that speaks of underscores does not count it. The two differ in names whose first
word is a single letter, and in no others (`cutByRule_false_iff`).

## Main results

* `cutByRule_iff` — the rule gives one text.
* `snake_divides` — snake case follows it, and when it follows the rule about underscores.
* `xRay_undivided` — a name for which it does not.
-/

namespace EntSchema.Naming

/-! ## The rule -/

/-- Which characters of a name start a word, each in view of the one before it. A capital between
two characters does behind a small letter, and it does as the last of several capitals, behind a
letter that starts no word and in front of a small letter. -/
def WordStarts (name : List Char) (starts : Nat → Bool) : Prop :=
  ∀ i, starts (i + 1) = true ↔
    ∃ previous c next, name[i]? = some previous ∧ name[i + 1]? = some c ∧
      name[i + 2]? = some next ∧ Unicode.isUppercase c = true ∧
      (Unicode.isLowercase previous = true ∨
        (starts i = false ∧ Unicode.isLowercase next = true ∧
          Unicode.isAlphabetic previous = true))

/-- The small forms of the characters of a name, with an underscore in front of some of them. -/
def divided (name : List Char) (places : Nat → Bool) : List Char :=
  (name.mapIdx fun i c => if places i then '_' :: Unicode.small c else Unicode.small c).flatten

/-- A name in small letters, divided in front of the words after the first one, where the first
character counts as the start of a word or does not. -/
def CutByRule (first : Bool) (name text : List Char) : Prop :=
  ∃ starts : Nat → Bool, starts 0 = first ∧ WordStarts name starts ∧
    text = divided name fun i => 0 < i && starts i

/-- A name whose first word is a single letter: behind a letter that is not small come a capital
and a small letter. -/
def BeginsWithLetterWord (name : List Char) : Prop :=
  ∃ first second third rest, name = first :: second :: third :: rest ∧
    Unicode.isAlphabetic first = true ∧ Unicode.isLowercase first = false ∧
    Unicode.isUppercase second = true ∧ Unicode.isLowercase third = true

section Rule

variable {name text rest : List Char} {previous c next : Char} {starts other : Nat → Bool}
  {first flag : Bool}

theorem startsWord_iff :
    startsWord previous flag c next = true ↔
      Unicode.isUppercase c = true ∧ (Unicode.isLowercase previous = true ∨
        (flag = false ∧ Unicode.isLowercase next = true ∧
          Unicode.isAlphabetic previous = true)) := by
  simp only [startsWord, Bool.and_eq_true, Bool.or_eq_true, Bool.not_eq_true', and_assoc]

theorem WordStarts.unique (h : WordStarts name starts) (hother : WordStarts name other)
    (hfirst : starts 0 = other 0) : starts = other := by
  funext i
  induction i with
  | zero => exact hfirst
  | succ i ih => rw [Bool.eq_iff_iff, h i, hother i, ih]

theorem WordStarts.tail (h : WordStarts (c :: rest) starts) :
    WordStarts rest fun i => starts (i + 1) := by
  intro i
  have hnext := h (i + 1)
  simpa only [List.getElem?_cons_succ] using hnext

theorem WordStarts.second (h : WordStarts (previous :: c :: next :: rest) starts) :
    starts 1 = startsWord previous (starts 0) c next := by
  rw [Bool.eq_iff_iff, startsWord_iff, h 0]
  constructor
  · rintro ⟨_, _, _, ⟨⟩, ⟨⟩, ⟨⟩, hword⟩
    exact hword
  · intro hword
    exact ⟨previous, c, next, rfl, rfl, rfl, hword⟩

theorem WordStarts.last (h : WordStarts [previous, c] starts) : starts 1 = false := by
  rw [Bool.eq_false_iff, ne_eq, h 0]
  rintro ⟨_, _, _, -, -, ⟨⟩, -⟩

/-- The starts of words that the rule gives, from what it leaves open. -/
def startsFrom (first : Bool) (name : List Char) : Nat → Bool
  | 0 => first
  | i + 1 =>
    match name[i]?, name[i + 1]?, name[i + 2]? with
    | some previous, some c, some next => startsWord previous (startsFrom first name i) c next
    | _, _, _ => false

theorem wordStarts_startsFrom (first : Bool) (name : List Char) :
    WordStarts name (startsFrom first name) := by
  intro i
  rw [startsFrom]
  split
  · rename_i previous c next hprevious hc hnext
    rw [startsWord_iff, hprevious, hc, hnext]
    constructor
    · intro hword
      exact ⟨previous, c, next, rfl, rfl, rfl, hword⟩
    · rintro ⟨_, _, _, ⟨⟩, ⟨⟩, ⟨⟩, hword⟩
      exact hword
  · rename_i hnone
    constructor
    · intro hfalse
      cases hfalse
    · rintro ⟨previous, c, next, hprevious, hc, hnext, -⟩
      exact (hnone previous c next hprevious hc hnext).elim

/-- **The rule gives one text.** -/
theorem cutByRule_iff :
    CutByRule first name text ↔
      text = divided name fun i => 0 < i && startsFrom first name i := by
  constructor
  · rintro ⟨starts, hfirst, hstarts, rfl⟩
    rw [hstarts.unique (wordStarts_startsFrom first name) hfirst]
  · intro htext
    exact ⟨startsFrom first name, rfl, wordStarts_startsFrom first name, htext⟩

/-! ## Snake case -/

theorem divided_cons (places : Nat → Bool) :
    divided (c :: rest) places =
      (if places 0 then '_' :: Unicode.small c else Unicode.small c) ++
        divided rest fun i => places (i + 1) := by
  rw [divided, List.mapIdx_cons, List.flatten_cons]
  rfl

/-- What follows a character is divided by the rule, from what is known of that character. -/
theorem snakeAfter_eq_divided (h : WordStarts (previous :: rest) starts) :
    snakeAfter previous (starts 0) rest = divided rest fun i => starts (i + 1) := by
  induction rest generalizing previous starts with
  | nil => rfl
  | cons c rest ih =>
    rw [divided_cons]
    cases rest with
    | nil =>
      rw [h.last]
      exact (List.append_nil _).symm
    | cons next more =>
      rw [snakeAfter, ← h.second]
      exact congrArg _ (ih h.tail)

/-- **In snake case the first character counts as the start of a word.** -/
theorem snakeChars_eq_divided (name : List Char) :
    snakeChars name = divided name fun i => 0 < i && startsFrom true name i := by
  cases name with
  | nil => rfl
  | cons c rest =>
    rw [snakeChars, divided_cons]
    exact congrArg _ (snakeAfter_eq_divided (wordStarts_startsFrom true (c :: rest)))

end Rule

/-! ## The second character -/

section Second

variable {name : List Char}

theorem startsFrom_one (first second third : Char) (rest : List Char) (flag : Bool) :
    startsFrom flag (first :: second :: third :: rest) 1 = startsWord first flag second third :=
  rfl

/-- Whether the first character counts shows at the second one of these names. -/
theorem beginsWithLetterWord_iff :
    BeginsWithLetterWord name ↔
      startsFrom true name 1 = false ∧ startsFrom false name 1 = true := by
  constructor
  · rintro ⟨first, second, third, rest, rfl, halphabetic, hfirst, hsecond, hthird⟩
    refine ⟨?_, startsWord_iff.2 ⟨hsecond, .inr ⟨rfl, hthird, halphabetic⟩⟩⟩
    rw [startsFrom_one, startsWord, hfirst, Bool.not_true, Bool.false_and, Bool.false_and,
      Bool.or_false, Bool.and_false]
  · rintro ⟨hwhole, hcut⟩
    match name with
    | [] => cases hcut
    | [_] => cases hcut
    | [_, _] => cases hcut
    | first :: second :: third :: rest =>
      obtain ⟨hsecond, hlower | ⟨-, hthird, halphabetic⟩⟩ := startsWord_iff.1 hcut
      · rw [startsFrom_one, startsWord, hsecond, hlower] at hwhole
        cases hwhole
      · refine ⟨first, second, third, rest, rfl, halphabetic, ?_, hsecond, hthird⟩
        rw [startsFrom_one, startsWord, hsecond, Bool.true_and, Bool.or_eq_false_iff] at hwhole
        exact hwhole.1

/-- In other names it shows nowhere. -/
theorem startsFrom_eq (h : ¬BeginsWithLetterWord name) (i : Nat) :
    startsFrom true name (i + 1) = startsFrom false name (i + 1) := by
  induction i with
  | zero =>
    rw [beginsWithLetterWord_iff, not_and] at h
    -- A first character that counts can only keep the second one from starting a word.
    have hkept : startsFrom true name 1 = true → startsFrom false name 1 = true := by
      rw [wordStarts_startsFrom true name 0, wordStarts_startsFrom false name 0]
      rintro ⟨previous, c, next, hprevious, hc, hnext, hupper, hlower | ⟨hfalse, -⟩⟩
      · exact ⟨previous, c, next, hprevious, hc, hnext, hupper, .inl hlower⟩
      · cases hfalse
    cases hwhole : startsFrom true name 1 with
    | true => exact (hkept hwhole).symm
    | false => exact (Bool.eq_false_iff.2 (h hwhole)).symm
  | succ i ih =>
    rw [Bool.eq_iff_iff, wordStarts_startsFrom true name (i + 1),
      wordStarts_startsFrom false name (i + 1), ih]

theorem exists_divided (first second : Char) (rest : List Char) (places : Nat → Bool) :
    ∃ later, divided (first :: second :: rest) (fun i => 0 < i && places i) =
      Unicode.small first ++
        ((if places 1 then '_' :: Unicode.small second else Unicode.small second) ++ later) := by
  rw [divided_cons, divided_cons]
  exact ⟨_, rfl⟩

/-- **Snake case follows the rule about underscores** except where a name begins with a word of one
letter, which it does not divide from the next word. -/
theorem cutByRule_false_iff (name : List Char) :
    CutByRule false name (snakeChars name) ↔ ¬BeginsWithLetterWord name := by
  rw [cutByRule_iff, snakeChars_eq_divided]
  constructor
  · intro heq hbegins
    obtain ⟨hwhole, hcut⟩ := beginsWithLetterWord_iff.1 hbegins
    obtain ⟨first, second, third, rest, rfl, -, -, hsecond, -⟩ := hbegins
    obtain ⟨later, hlater⟩ := exists_divided first second (third :: rest)
      (startsFrom true (first :: second :: third :: rest))
    obtain ⟨later', hlater'⟩ := exists_divided first second (third :: rest)
      (startsFrom false (first :: second :: third :: rest))
    rw [hlater, hlater', hwhole, hcut] at heq
    -- One text goes on with the small form of the capital where the other has an underscore.
    have hunderscore := List.append_cancel_left heq
    obtain ⟨d, more, hsmall⟩ := exists_small_eq second
    have hmem : '_' ∈ Unicode.small second := by
      rw [hsmall] at hunderscore ⊢
      rw [← (List.cons.inj hunderscore).1]
      exact List.mem_cons_self
    have hne : second ≠ '_' := by
      rintro rfl
      cases hsecond
    exact underscore_not_mem_small hne hmem
  · intro h
    refine congrArg _ (funext fun i => ?_)
    cases i with
    | zero => rfl
    | succ i => rw [startsFrom_eq h]

end Second

/-- **Snake case divides a name by its rule**, in which the first character counts as the start of
a word, and adds nothing else. It follows the rule about underscores as well, unless the name begins
with a word of one letter. -/
theorem snake_divides (name : String) :
    (∀ text, CutByRule true name.toList text ↔ text = (snake name).toList) ∧
      (CutByRule false name.toList (snake name).toList ↔ ¬BeginsWithLetterWord name.toList) := by
  have hsnake : (snake name).toList = snakeChars name.toList := String.toList_ofList
  rw [hsnake]
  refine ⟨fun text => ?_, cutByRule_false_iff name.toList⟩
  rw [cutByRule_iff, snakeChars_eq_divided]

/-- The first word of `XRay` is a single letter, and the rule about underscores divides it from the
second word. Snake case does not. -/
theorem xRay_undivided :
    CutByRule false "XRay".toList "x_ray".toList ∧ snake "XRay" = "xray" ∧
      ¬CutByRule false "XRay".toList (snake "XRay").toList := by
  simp only [cutByRule_iff]
  decide

end EntSchema.Naming
