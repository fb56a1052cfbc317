import EntSchema.Proofs.Schema.Files
import EntSchema.Proofs.Schema.Literals

/-!
# Names in quotes

The names of an index and those of a composite key are written between quotes as they are, so they
are read back exactly when no character of them means something else inside a literal
(`content?_inQuotes`). Any other name denotes another text, ends early, or makes the list unreadable
(`fileOf_namesDenoted`).

The reason is a matter of lengths. Up to the first quote in it a name denotes at most as many bytes
as it has, and fewer when there is an escape, since every escape is longer than what it denotes.
-/

namespace EntSchema.Schema

open Relational Config

/-! ## Bytes and quotes -/

/-- The byte of a quote. -/
def quoteByte : UInt8 := 34

section Bytes

variable {c : Char} {s : List Char} {n : Nat}

theorem ofNat_ne_quoteByte (h : n < 256) (hn : n ≠ 34) : UInt8.ofNat n ≠ quoteByte := by
  intro heq
  have hnat := congrArg UInt8.toNat heq
  rw [UInt8.toNat_ofNat', Nat.mod_eq_of_lt h] at hnat
  exact hn hnat

/-- Only a quote has the byte of a quote. -/
theorem quoteByte_not_mem_utf8 (h : c ≠ '"') : quoteByte ∉ String.utf8EncodeChar c := by
  have hval : c.val.toNat ≠ 34 := by
    intro heq
    exact h (Char.ext (UInt32.toNat_inj.1 heq))
  have hfar : ∀ a b : Nat, 128 ≤ b → a + b < 256 → quoteByte ≠ UInt8.ofNat (a + b) := by
    intro a b hb hab
    exact (ofNat_ne_quoteByte hab (by omega)).symm
  rw [String.utf8EncodeChar]
  split
  · rw [List.mem_singleton]
    exact (ofNat_ne_quoteByte (by omega) hval).symm
  split
  · simp only [List.mem_cons, List.not_mem_nil, or_false, not_or]
    exact ⟨hfar _ _ (by omega) (by omega), hfar _ _ (by omega) (by omega)⟩
  split
  · simp only [List.mem_cons, List.not_mem_nil, or_false, not_or]
    exact ⟨hfar _ _ (by omega) (by omega), hfar _ _ (by omega) (by omega),
      hfar _ _ (by omega) (by omega)⟩
  · simp only [List.mem_cons, List.not_mem_nil, or_false, not_or]
    exact ⟨hfar _ _ (by omega) (by omega), hfar _ _ (by omega) (by omega),
      hfar _ _ (by omega) (by omega), hfar _ _ (by omega) (by omega)⟩

theorem length_le_length_bytesOf (s : List Char) : s.length ≤ (bytesOf s).length := by
  induction s with
  | nil => exact Nat.le_refl 0
  | cons c s ih =>
    have := c.utf8Size_pos
    rw [bytesOf_cons, List.length_append, String.length_utf8EncodeChar, List.length_cons]
    omega

theorem quoteByte_not_mem_bytesOf (h : '"' ∉ s) : quoteByte ∉ bytesOf s := by
  intro hmem
  obtain ⟨c, hc, hbyte⟩ := List.mem_flatMap.1 hmem
  exact quoteByte_not_mem_utf8 (ne_of_mem_of_not_mem hc h) hbyte

/-- The bytes up to the first one of a quote. -/
def unquoted (bytes : List UInt8) : List UInt8 :=
  bytes.takeWhile (· != quoteByte)

theorem unquoted_append {bytes : List UInt8} (h : quoteByte ∉ bytes) (more : List UInt8) :
    unquoted (bytes ++ more) = bytes ++ unquoted more := by
  refine List.takeWhile_append_of_pos fun byte hbyte => ?_
  exact bne_iff_ne.2 (ne_of_mem_of_not_mem hbyte h)

theorem unquoted_bytesOf (h : '"' ∉ s) : unquoted (bytesOf s) = bytesOf s := by
  have hself := unquoted_append (quoteByte_not_mem_bytesOf h) []
  rwa [List.append_nil, unquoted, unquoted, List.takeWhile_nil, List.append_nil] at hself

theorem unquoted_bytesOf_quote (h : '"' ∉ s) (t : List Char) :
    unquoted (bytesOf (s ++ '"' :: t)) = bytesOf s := by
  have hquote : unquoted (bytesOf ('"' :: t)) = [] := rfl
  rw [bytesOf_append, unquoted_append (quoteByte_not_mem_bytesOf h), hquote, List.append_nil]

/-- Bytes in front add at most themselves. -/
theorem length_unquoted_append (bytes more : List UInt8) :
    (unquoted (bytes ++ more)).length ≤ bytes.length + (unquoted more).length := by
  induction bytes with
  | nil => exact (Nat.zero_add _).ge
  | cons byte bytes ih =>
    rw [unquoted, List.cons_append, List.takeWhile_cons, List.length_cons]
    split
    · rw [List.length_cons]
      unfold unquoted at ih ⊢
      omega
    · exact Nat.zero_le _

end Bytes

/-! ## Names between quotes -/

/-- Characters that stand for themselves inside a literal. -/
def IsVerbatim (s : List Char) : Prop :=
  ∀ c ∈ s, c ≠ '"' ∧ c ≠ '\\' ∧ c ≠ '\n'

instance (s : List Char) : Decidable (IsVerbatim s) :=
  List.decidableBAll (fun c => c ≠ '"' ∧ c ≠ '\\' ∧ c ≠ '\n') s

section Names

variable {c : Char} {s u later rest after : List Char} {bytes : List UInt8} {n seen base width : Nat}
  {denoted? : Nat → Option (List UInt8)}

theorem digit?_quote (base : Nat) : Text.digit? base '"' = none := rfl

theorem length_of_byteNumbered? (hwidth : 1 ≤ width) (n : Nat) (bytes : List UInt8)
    (h : byteNumbered? n = some bytes) : bytes.length ≤ width := by
  rw [byteNumbered?] at h
  split at h
  · cases h
    exact hwidth
  · cases h

theorem length_of_characterNumbered? (hwidth : 4 ≤ width) (n : Nat) (bytes : List UInt8)
    (h : characterNumbered? n = some bytes) : bytes.length ≤ width := by
  rw [characterNumbered?] at h
  split at h
  · cases h
    rw [String.length_utf8EncodeChar]
    exact (Char.utf8Size_le_four _).trans hwidth
  · cases h

/-- The digits of a number end before a quote, and there are at least as many of them as the number
denotes bytes. -/
theorem numberEscape?_before_quote (h : numberEscape? base width denoted? (u ++ '"' :: rest) =
      some (bytes, later)) (hdenoted : ∀ n bytes, denoted? n = some bytes → bytes.length ≤ width) :
    ∃ v, later = v ++ '"' :: rest ∧ v ⊆ u ∧
      bytes.length + (bytesOf v).length ≤ (bytesOf u).length := by
  obtain ⟨hwidth, rfl, n, hn, hbytes⟩ := numberEscape?_eq_some.1 h
  have hshort : width ≤ u.length := by
    by_contra hlong
    have hquote := Text.not_mem_of_digitsAfter (digit?_quote base) hn
    rw [List.take_append, List.take_of_length_le (by omega)] at hquote
    obtain ⟨k, hk⟩ : ∃ k, width - u.length = k + 1 := ⟨width - u.length - 1, by omega⟩
    rw [hk, List.take_succ_cons] at hquote
    exact hquote (List.mem_append_right _ List.mem_cons_self)
  refine ⟨u.drop width, ?_, List.drop_subset _ _, ?_⟩
  · rw [List.drop_append_of_le_length hshort]
  · have htake := length_le_length_bytesOf (u.take width)
    rw [List.length_take, Nat.min_eq_left hshort] at htake
    have hall : bytesOf u = bytesOf (u.take width) ++ bytesOf (u.drop width) := by
      rw [← bytesOf_append, List.take_append_drop]
    have := hdenoted n bytes hbytes
    rw [hall, List.length_append]
    omega

/-- An escape that does not begin with a quote ends before the next one, and it is as long at least
as what it denotes. -/
theorem escape?_before_quote (h : escape? (c :: s ++ '"' :: rest) = some (bytes, later)) :
    ∃ v, later = v ++ '"' :: rest ∧ v ⊆ c :: s ∧
      bytes.length + (bytesOf v).length ≤ (bytesOf (c :: s)).length := by
  have hbehind : (bytesOf (c :: s)).length = c.utf8Size + (bytesOf s).length := by
    rw [bytesOf_cons, List.length_append, String.length_utf8EncodeChar]
  have hone := c.utf8Size_pos
  -- A number behind its letter leaves something of what stands behind that letter.
  have hletter : ∀ {width denoted?}, numberEscape? 16 width denoted? (s ++ '"' :: rest) =
      some (bytes, later) → (∀ n bytes, denoted? n = some bytes → bytes.length ≤ width) →
      ∃ v, later = v ++ '"' :: rest ∧ v ⊆ c :: s ∧
        bytes.length + (bytesOf v).length ≤ (bytesOf (c :: s)).length := by
    intro width denoted? hnumber hdenoted
    obtain ⟨v, hv, hsub, hlength⟩ := numberEscape?_before_quote hnumber hdenoted
    exact ⟨v, hv, List.subset_cons_of_subset c hsub, by omega⟩
  rcases escape?_cases h with ⟨byte, -, rfl, rfl⟩ | ⟨-, hx⟩ | ⟨-, hu⟩ | ⟨-, hu⟩ | hoctal
  · refine ⟨s, rfl, List.subset_cons_self c s, ?_⟩
    rw [List.length_singleton]
    omega
  · exact hletter hx (length_of_byteNumbered? (by decide))
  · exact hletter hu (length_of_characterNumbered? (by decide))
  · exact hletter hu (length_of_characterNumbered? (by decide))
  · exact numberEscape?_before_quote hoctal (length_of_byteNumbered? (by decide))

/-- What is read first of a text up to a quote: a character that denotes itself, a backslash that
takes the quote along, or an escape that is longer than what it denotes. -/
theorem unit?_before_quote (hc : c ≠ '"') (h : unit? (c :: s ++ '"' :: rest) = some (bytes, later)) :
    ((c ≠ '"' ∧ c ≠ '\\' ∧ c ≠ '\n') ∧ bytes = String.utf8EncodeChar c ∧
        later = s ++ '"' :: rest) ∨
      (c = '\\' ∧ s = [] ∧ bytes = [quoteByte]) ∨
      ∃ v, later = v ++ '"' :: rest ∧ v ⊆ s ∧
        bytes.length + (bytesOf v).length < (bytesOf (c :: s)).length := by
  rw [List.cons_append, unit?] at h
  split at h
  · cases h
  rename_i hclosing
  split at h
  case isFalse hbackslash =>
    cases h
    exact .inl ⟨⟨hc, hbackslash, fun hfeed => hclosing (.inr hfeed)⟩, rfl, rfl⟩
  subst c
  cases s with
  | nil =>
    cases h
    exact .inr (.inl ⟨rfl, rfl, rfl⟩)
  | cons d s =>
    obtain ⟨v, hv, hsub, hlength⟩ := escape?_before_quote h
    refine .inr (.inr ⟨v, hv, hsub, ?_⟩)
    rw [bytesOf_cons, List.length_append]
    exact hlength.trans_lt (Nat.lt_add_of_pos_left Nat.zero_lt_one)

/-- **Up to its first quote, a text between quotes denotes what it is, or fewer bytes.** -/
theorem content?_before_quote (hs : '"' ∉ s)
    (h : content? (s ++ '"' :: rest) = some (bytes, after)) :
    (IsVerbatim s ∧ bytes = bytesOf s ∧ after = rest) ∨
      (unquoted bytes).length < (bytesOf s).length := by
  induction hlength : (bytesOf s).length using Nat.strong_induction_on generalizing s bytes with
  | _ length ih =>
    subst hlength
    cases s with
    | nil =>
      rw [List.nil_append, content?_quote] at h
      cases h
      exact .inl ⟨nofun, rfl, rfl⟩
    | cons c s =>
      have hc : c ≠ '"' := (List.ne_of_not_mem_cons hs).symm
      have hrest : '"' ∉ s := List.not_mem_of_not_mem_cons hs
      have hsize := c.utf8Size_pos
      obtain ⟨first, later, more, hunit, hmore, rfl⟩ := content?_eq_some hc h
      have hbound := length_unquoted_append first more
      rcases unit?_before_quote hc hunit with ⟨hself, rfl, rfl⟩ | ⟨rfl, rfl, rfl⟩ |
        ⟨v, rfl, hsub, hshort⟩
      · rw [bytesOf_cons, List.length_append, String.length_utf8EncodeChar]
        rw [String.length_utf8EncodeChar] at hbound
        have hless : (bytesOf s).length < (bytesOf (c :: s)).length := by
          rw [bytesOf_cons, List.length_append, String.length_utf8EncodeChar]
          omega
        rcases ih _ hless hrest hmore rfl with ⟨hverbatim, rfl, rfl⟩ | hfewer
        · exact .inl ⟨List.forall_mem_cons.2 ⟨hself, hverbatim⟩, rfl, rfl⟩
        · right
          omega
      · right
        exact Nat.zero_lt_one
      · right
        have hunquoted : (unquoted more).length ≤ (bytesOf v).length := by
          have hv : '"' ∉ v := fun hmem => hrest (hsub hmem)
          rcases ih _ (by omega) hv hmore rfl with ⟨-, rfl, -⟩ | hfewer
          · rw [unquoted_bytesOf hv]
          · omega
        omega

theorem content?_of_verbatim (h : IsVerbatim s) (rest : List Char) :
    content? (s ++ '"' :: rest) = some (bytesOf s, rest) := by
  have hself := content?_flatMap (fun c hc rest => unit?_self (h c hc) rest) rest
  rwa [List.flatMap_singleton'] at hself

/-- **A text between quotes denotes itself when it is verbatim, and not otherwise.** -/
theorem content?_inQuotes :
    content? (s ++ '"' :: rest) = some (bytesOf s, after) ↔ IsVerbatim s ∧ after = rest := by
  constructor
  · intro h
    by_cases hquote : '"' ∈ s
    · obtain ⟨v, w, rfl, hv⟩ := List.eq_append_cons_of_mem hquote
      rw [List.append_assoc, List.cons_append] at h
      rcases content?_before_quote hv h with ⟨-, hbytes, -⟩ | hfewer
      · have hsame := bytesOf_injective hbytes
        rw [List.append_right_eq_self] at hsame
        cases hsame
      · rw [unquoted_bytesOf_quote hv] at hfewer
        exact absurd hfewer (Nat.lt_irrefl _)
    · rcases content?_before_quote hquote h with ⟨hverbatim, -, hafter⟩ | hfewer
      · exact ⟨hverbatim, hafter⟩
      · rw [unquoted_bytesOf hquote] at hfewer
        exact absurd hfewer (Nat.lt_irrefl _)
  · rintro ⟨hverbatim, rfl⟩
    exact content?_of_verbatim hverbatim after

end Names

/-! ## Lists of literals -/

/-- A source text without the blanks that it starts with. -/
def skipBlanks (s : List Char) : List Char :=
  s.dropWhile [' ', '\t', '\r', '\n'].contains

/-- What a literal denotes, the character behind it, and what comes then. -/
def item? (s : List Char) : Option (List UInt8 × Char × List Char) :=
  (literal? (skipBlanks s)).bind fun (bytes, later) =>
    match skipBlanks later with
    | [] => none
    | c :: rest => some (bytes, c, rest)

section Items

variable {c d : Char} {s later rest after : List Char} {bytes : List UInt8}
  {all : List (List UInt8)}

theorem length_lt_of_content? (h : content? s = some (bytes, later)) : later.length < s.length := by
  induction hlength : s.length using Nat.strong_induction_on generalizing s bytes with
  | _ length ih =>
    subst hlength
    cases s with
    | nil =>
      rw [content?] at h
      cases h
    | cons c s =>
      by_cases hc : c = '"'
      · rw [hc, content?_quote] at h
        cases h
        exact Nat.lt_succ_self _
      · obtain ⟨first, rest, more, hunit, hmore, -⟩ := content?_eq_some hc h
        have hrest := length_lt_of_unit? hunit
        have := ih _ hrest hmore rfl
        omega

theorem length_lt_of_literal? (h : literal? s = some (bytes, later)) : later.length < s.length := by
  unfold literal? at h
  split at h
  · have := length_lt_of_content? h
    rw [List.length_cons]
    omega
  · cases h

theorem length_skipBlanks_le (s : List Char) : (skipBlanks s).length ≤ s.length :=
  (List.dropWhile_suffix _).length_le

theorem item?_eq_some :
    item? s = some (bytes, c, rest) ↔
      ∃ later, literal? (skipBlanks s) = some (bytes, later) ∧ skipBlanks later = c :: rest := by
  rw [item?, Option.bind_eq_some_iff]
  constructor
  · rintro ⟨⟨found, later⟩, hliteral, hrest⟩
    dsimp only at hrest
    split at hrest
    · cases hrest
    · rename_i hlater
      cases hrest
      exact ⟨later, hliteral, hlater⟩
  · rintro ⟨later, hliteral, hrest⟩
    refine ⟨_, hliteral, ?_⟩
    simp only [hrest]

theorem length_lt_of_item? (h : item? s = some (bytes, c, rest)) : rest.length < s.length := by
  obtain ⟨later, hliteral, hrest⟩ := item?_eq_some.1 h
  have := length_lt_of_literal? hliteral
  have := length_skipBlanks_le s
  have hlater := length_skipBlanks_le later
  rw [hrest, List.length_cons] at hlater
  omega

end Items

/-- What literals with commas between them denote, up to a closing parenthesis, and what comes behind
that. -/
def literals? (s : List Char) : Option (List (List UInt8) × List Char) :=
  match _h : item? s with
  | none => none
  | some (bytes, c, rest) =>
    if c = ',' then (literals? rest).map (Prod.map (bytes :: ·) id)
    else if c = ')' then some ([bytes], rest)
    else none
termination_by s.length
decreasing_by exact length_lt_of_item? _h

/-- What the arguments denote in a call of some function, all of them literals, and what comes behind
the call. -/
def callArguments? (callee : String) (s : List Char) : Option (List (List UInt8) × List Char) :=
  let opening := callee.toList ++ ['(']
  if opening <+: s then
    match skipBlanks (s.drop opening.length) with
    | ')' :: rest => some ([], rest)
    | _ => literals? (s.drop opening.length)
  else none

section Lists

variable {c d : Char} {s later rest after : List Char} {bytes : List UInt8}
  {all : List (List UInt8)} {names : List String}

theorem literals?_eq_some :
    literals? s = some (all, after) ↔
      ∃ bytes c rest, item? s = some (bytes, c, rest) ∧
        ((c = ',' ∧ ∃ more, literals? rest = some (more, after) ∧ all = bytes :: more) ∨
          (c = ')' ∧ all = [bytes] ∧ after = rest)) := by
  rw [literals?]
  split
  · rename_i hnone
    simp [hnone]
  · rename_i bytes c rest hitem
    simp only [hitem, Option.some.injEq, Prod.mk.injEq]
    constructor
    · intro h
      refine ⟨bytes, c, rest, ⟨rfl, rfl, rfl⟩, ?_⟩
      split at h
      · obtain ⟨⟨more, behind⟩, hmore, hboth⟩ := Option.map_eq_some_iff.1 h
        cases hboth
        exact .inl ⟨‹_›, more, hmore, rfl⟩
      split at h
      · cases h
        exact .inr ⟨‹_›, rfl, rfl⟩
      · cases h
    · rintro ⟨_, _, _, ⟨rfl, rfl, rfl⟩, ⟨rfl, more, hmore, rfl⟩ | ⟨rfl, rfl, rfl⟩⟩
      · rw [if_pos rfl, hmore]
        rfl
      · rw [if_neg (by decide), if_pos rfl]

theorem skipBlanks_cons (h : c ∉ [' ', '\t', '\r', '\n']) (s : List Char) :
    skipBlanks (c :: s) = c :: s := by
  rw [skipBlanks, List.dropWhile_cons_of_neg]
  rwa [List.contains_iff_mem]

/-- The first name of a list, and what stands behind it. -/
theorem item?_inQuotes (hc : c ∉ [' ', '\t', '\r', '\n']) :
    item? ('"' :: (s ++ '"' :: c :: rest)) = some (bytesOf s, d, after) ↔
      IsVerbatim s ∧ d = c ∧ after = rest := by
  rw [item?_eq_some, skipBlanks_cons (by decide)]
  simp only [literal?, content?_inQuotes]
  constructor
  · rintro ⟨later, ⟨hverbatim, rfl⟩, hlater⟩
    rw [skipBlanks_cons hc] at hlater
    cases hlater
    exact ⟨hverbatim, rfl, rfl⟩
  · rintro ⟨hverbatim, rfl, rfl⟩
    exact ⟨_, ⟨hverbatim, rfl⟩, skipBlanks_cons hc after⟩

theorem literals?_first :
    literals? ('"' :: (s ++ '"' :: ',' :: rest)) = some (bytesOf s :: all, after) ↔
      IsVerbatim s ∧ literals? rest = some (all, after) := by
  rw [literals?_eq_some]
  constructor
  · rintro ⟨bytes, c, later, hitem, ⟨rfl, more, hmore, hall⟩ | ⟨rfl, hall, -⟩⟩
    · cases hall
      obtain ⟨hverbatim, -, rfl⟩ := (item?_inQuotes (by decide)).1 hitem
      exact ⟨hverbatim, hmore⟩
    · cases hall
      obtain ⟨-, hcomma, -⟩ := (item?_inQuotes (by decide)).1 hitem
      cases hcomma
  · rintro ⟨hverbatim, hmore⟩
    have hcomma : ',' ∉ [' ', '\t', '\r', '\n'] := by decide
    exact ⟨_, ',', rest, (item?_inQuotes hcomma).2 ⟨hverbatim, rfl, rfl⟩,
      .inl ⟨rfl, all, hmore, rfl⟩⟩

theorem literals?_last :
    literals? ('"' :: (s ++ '"' :: ')' :: rest)) = some ([bytesOf s], after) ↔
      IsVerbatim s ∧ after = rest := by
  rw [literals?_eq_some]
  constructor
  · rintro ⟨bytes, c, later, hitem, ⟨rfl, more, hmore, hall⟩ | ⟨rfl, hall, rfl⟩⟩
    · cases hall
      obtain ⟨-, hcomma, -⟩ := (item?_inQuotes (by decide)).1 hitem
      cases hcomma
    · cases hall
      obtain ⟨hverbatim, -, rfl⟩ := (item?_inQuotes (by decide)).1 hitem
      exact ⟨hverbatim, rfl⟩
  · rintro ⟨hverbatim, rfl⟩
    have hclosing : ')' ∉ [' ', '\t', '\r', '\n'] := by decide
    exact ⟨_, ')', after, (item?_inQuotes hclosing).2 ⟨hverbatim, rfl, rfl⟩, .inr ⟨rfl, rfl, rfl⟩⟩

theorem literals?_blank (s : List Char) : literals? (' ' :: s) = literals? s := by
  have hitem : item? (' ' :: s) = item? s := rfl
  refine Option.ext fun (all, after) => ?_
  rw [literals?_eq_some, literals?_eq_some, hitem]

theorem toList_quotedList_cons (name : String) (names : List String) :
    (quotedList (name :: names)).toList =
      '"' :: (name.toList ++ '"' ::
        (if names = [] then [] else ',' :: ' ' :: (quotedList names).toList)) := by
  have hquotes : (inQuotes name).toList = '"' :: (name.toList ++ ['"']) := by
    rw [inQuotes, String.toList_append, String.toList_append]
    rfl
  have hseparator : ", ".toList = [',', ' '] := rfl
  simp only [quotedList, String.toList_intercalate, hseparator]
  cases names with
  | nil =>
    rw [List.map_cons, List.map_cons, List.map_nil, List.map_nil, List.intercalate_singleton,
      hquotes, if_pos rfl]
  | cons second rest =>
    rw [List.map_cons, List.map_cons, List.map_cons, List.map_cons, List.intercalate_cons_cons,
      hquotes, if_neg (List.cons_ne_nil _ _)]
    simp only [List.cons_append, List.append_assoc, List.nil_append]

/-- **A list of names denotes them when all of them are verbatim, and not otherwise.** -/
theorem literals?_quotedList (hne : names ≠ []) :
    literals? ((quotedList names).toList ++ ')' :: rest) =
        some (names.map (bytesOf ·.toList), after) ↔
      (∀ name ∈ names, IsVerbatim name.toList) ∧ after = rest := by
  induction names with
  | nil => exact absurd rfl hne
  | cons name names ih =>
    rw [toList_quotedList_cons, List.map_cons, List.forall_mem_cons]
    cases names with
    | nil =>
      rw [if_pos rfl, List.map_nil, List.cons_append, List.append_assoc]
      refine literals?_last.trans (and_congr_left fun _ => ?_)
      exact (and_iff_left nofun).symm
    | cons second names =>
      rw [if_neg (List.cons_ne_nil _ _), List.cons_append, List.append_assoc, List.cons_append,
        List.cons_append, List.cons_append, literals?_first, literals?_blank,
        ih (List.cons_ne_nil _ _), and_assoc]

/-- A text is a call that names something: its arguments denote those names, and something stands
behind it. That is so if and only if all names are verbatim. -/
def NamesDenoted (callee : String) (names : List String) (behind text : String) : Prop :=
  ∀ after, callArguments? callee text.toList = some (names.map (bytesOf ·.toList), after) ↔
    (∀ name ∈ names, IsVerbatim name.toList) ∧ after = behind.toList

theorem callArguments?_append (callee : String) (s : List Char) :
    callArguments? callee (callee.toList ++ '(' :: s) =
      match skipBlanks s with
      | ')' :: rest => some ([], rest)
      | _ => literals? s := by
  have htext : callee.toList ++ '(' :: s = callee.toList ++ ['('] ++ s := by
    rw [List.append_assoc, List.singleton_append]
  rw [callArguments?, htext]
  simp only [List.prefix_append, if_true, List.drop_left]

theorem namesDenoted_call {callee behind text : String}
    (h : text.toList = callee.toList ++ '(' :: ((quotedList names).toList ++ ')' :: behind.toList)) :
    NamesDenoted callee names behind text := by
  intro after
  rw [h, callArguments?_append]
  cases names with
  | nil =>
    show some ([], behind.toList) = some ([], after) ↔ _
    simp [eq_comm]
  | cons name names =>
    have hstart : skipBlanks ((quotedList (name :: names)).toList ++ ')' :: behind.toList) =
        (quotedList (name :: names)).toList ++ ')' :: behind.toList := by
      rw [toList_quotedList_cons, List.cons_append, skipBlanks_cons (by decide)]
    rw [← literals?_quotedList (List.cons_ne_nil name names), hstart, toList_quotedList_cons]
    rfl

end Lists

/-! ## The names in a schema file -/

/-- What stands behind the fields of an index. -/
def indexEnd (index : Index) : String :=
  if index.isUnique then ".\nUnique()" else ""

theorem namesDenoted_indexText (index : Index) :
    NamesDenoted "index.Fields" index.columns (indexEnd index) (indexText index) := by
  apply namesDenoted_call
  have hcall : "index.Fields(".toList = "index.Fields".toList ++ ['('] := by decide
  have hclosing : ")".toList = [')'] := rfl
  have hunique : linkSeparator ++ Link.unique.text = ".\nUnique()" := rfl
  rw [indexText, indexEnd]
  split
  · simp only [String.append_assoc, hunique, String.toList_append, hcall, hclosing,
      List.append_assoc, List.singleton_append]
  · simp only [String.toList_append, hcall, hclosing, List.append_assoc, List.singleton_append]
    rfl

theorem namesDenoted_keyText (names : List String) :
    NamesDenoted "field.ID" names "" ("field.ID(" ++ quotedList names ++ ")") := by
  apply namesDenoted_call
  have hcall : "field.ID(".toList = "field.ID".toList ++ ['('] := by decide
  have hclosing : ")".toList = [')'] := rfl
  simp only [String.toList_append, hcall, hclosing, List.append_assoc, List.singleton_append]
  rfl

/-- **The names in a schema file denote columns as far as they are verbatim.** An index denotes
exactly its columns when no name of them has a quote, a backslash or a line feed in it, and with any
such name it does not denote them. The same holds of a composite key. -/
theorem fileOf_namesDenoted {config : Config} {table : Table} {file : SchemaFile}
    (h : fileOf config table = .ok file) :
    List.Forall₂ (fun index => NamesDenoted "index.Fields" index.columns (indexEnd index))
        table.indexes file.indexes ∧
      (2 ≤ (linkColumns table).length →
        ∃ text, file.annotations = [text] ∧
          NamesDenoted "field.ID" (linkColumns table) "" text) := by
  obtain ⟨-, rfl⟩ := fileOf_eq_ok.1 h
  constructor
  · show List.Forall₂ _ table.indexes (table.indexes.map indexText)
    rw [List.forall₂_map_right_iff, List.forall₂_same]
    exact fun index _ => namesDenoted_indexText index
  · intro hseveral
    refine ⟨_, if_pos hseveral, namesDenoted_keyText _⟩

/-! ## A table of seats -/

/-- Settings with a declaration of its own for a column whose name has quotes in it. -/
def seatSettings : Config where
  builders := [("int8", "field.Int64(\"%s\")")]
  overrides :=
    [ { name := "label", template := "field.String(\"label\")"
        matchers := [{ property := .name, expected := some (.text "label \"A\"") }] } ]

/-- A table with a composite key and two indexes, one of them over the column with the quotes. -/
def seatTable : Table where
  name := "seats"
  columns :=
    [ { name := "row", type := "int8", isPrimary := true, isNotNull := true
        foreignKey := some { table := "rows", column := "id" } }
    , { name := "place", type := "int8", isPrimary := true, isNotNull := true
        foreignKey := some { table := "places", column := "id" } }
    , { name := "label \"A\"", type := "text" } ]
  indexes :=
    [ { columns := ["row", "place"], isUnique := true }
    , { columns := ["row", "label \"A\""], isUnique := false } ]

theorem fileOf_seatTable : fileOf seatSettings seatTable = .ok
    { stem := "seat"
      entity := "Seat"
      annotations := ["field.ID(\"row\", \"place\")"]
      fields := ["field.Int64(\"row\")", "field.Int64(\"place\")", "field.String(\"label\")"]
      indexes := ["index.Fields(\"row\", \"place\").\nUnique()",
        "index.Fields(\"row\", \"label \"A\"\")"] } := by
  decide +kernel

/-- The first index and the key denote their columns, the second index does not. -/
theorem seatTable_namesDenoted :
    ∃ file key first second, fileOf seatSettings seatTable = .ok file ∧
      file.annotations = [key] ∧ file.indexes = [first, second] ∧
      callArguments? "field.ID" key.toList =
        some (["row", "place"].map (bytesOf ·.toList), []) ∧
      callArguments? "index.Fields" first.toList =
        some (["row", "place"].map (bytesOf ·.toList), ".\nUnique()".toList) ∧
      ∀ after, callArguments? "index.Fields" second.toList ≠
        some (["row", "label \"A\""].map (bytesOf ·.toList), after) := by
  obtain ⟨hindexes, hkey⟩ := fileOf_namesDenoted fileOf_seatTable
  obtain ⟨key, hannotations, hdenoted⟩ := hkey (by decide)
  obtain ⟨hfirst, hrest⟩ := List.forall₂_cons.1 hindexes
  obtain ⟨hsecond, -⟩ := List.forall₂_cons.1 hrest
  refine ⟨_, key, _, _, fileOf_seatTable, hannotations, rfl, ?_, ?_, ?_⟩
  · exact (hdenoted _).2 ⟨by decide, rfl⟩
  · exact (hfirst _).2 ⟨by decide, rfl⟩
  · intro after hread
    obtain ⟨hverbatim, -⟩ := (hsecond after).1 hread
    revert hverbatim
    decide

/-- A quote in the name of a column is not escaped, so the second index names something else. -/
theorem seatTable_misnamed :
    ∃ file index text, fileOf seatSettings seatTable = .ok file ∧
      seatTable.indexes[1]? = some index ∧ file.indexes[1]? = some text ∧
      ∀ after, callArguments? "index.Fields" text.toList ≠
        some (index.columns.map (bytesOf ·.toList), after) := by
  refine ⟨_, _, _, fileOf_seatTable, rfl, rfl, ?_⟩
  intro after hread
  have hindex := namesDenoted_indexText { columns := ["row", "label \"A\""], isUnique := false }
  obtain ⟨hverbatim, -⟩ := (hindex after).1 hread
  revert hverbatim
  decide

end EntSchema.Schema
