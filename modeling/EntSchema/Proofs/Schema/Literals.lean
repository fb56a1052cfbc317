import EntSchema.Schema.Literal

/-!
# What Go literals denote

A Go string is a list of bytes. The characters of an interpreted string literal denote their bytes,
one by one, and an escape denotes those that it is about; the first quote that is no escape closes
the literal. `content?` reads a literal by these rules, all escapes of the language included.

So a text is written faithfully when each of its characters is written as something that is read as
one unit and denotes that character (`content?_flatMap`). That is how `goLiteral` writes a text, and
it leaves no control character in it.
-/

namespace EntSchema.Schema

/-- The bytes of a text. -/
def bytesOf (s : List Char) : List UInt8 :=
  s.flatMap String.utf8EncodeChar

theorem bytesOf_cons (c : Char) (s : List Char) :
    bytesOf (c :: s) = String.utf8EncodeChar c ++ bytesOf s :=
  List.flatMap_cons

theorem bytesOf_append (s t : List Char) : bytesOf (s ++ t) = bytesOf s ++ bytesOf t :=
  List.flatMap_append

theorem bytesOf_injective {s t : List Char} (h : bytesOf s = bytesOf t) : s = t := by
  have hencoded : s.utf8Encode = t.utf8Encode := congrArg List.toByteArray h
  rw [← String.toByteArray_ofList, ← String.toByteArray_ofList, String.toByteArray_inj] at hencoded
  exact String.ofList_injective hencoded

/-! ## Reading a literal -/

/-- What a backslash makes of the single character behind it. -/
def simpleEscapes : List (Char × UInt8) :=
  [('a', 7), ('b', 8), ('f', 12), ('n', 10), ('r', 13), ('t', 9), ('v', 11), ('\\', 92), ('"', 34)]

/-- The byte of a number, if it is one. -/
def byteNumbered? (n : Nat) : Option (List UInt8) :=
  if n < 256 then some [UInt8.ofNat n] else none

/-- The bytes of the character with a number, if there is one. Surrogates are no characters. -/
def characterNumbered? (n : Nat) : Option (List UInt8) :=
  if n.isValidChar then some (String.utf8EncodeChar (Char.ofNat n)) else none

/-- What a number of exactly `width` digits denotes, and what comes behind it. -/
def numberEscape? (base width : Nat) (denoted? : Nat → Option (List UInt8)) (s : List Char) :
    Option (List UInt8 × List Char) :=
  if width ≤ s.length then
    ((Text.digitsAfter base 0 (s.take width)).bind denoted?).map (·, s.drop width)
  else none

/-- What an escape denotes, and what comes behind it; its backslash has been read. -/
def escape? : List Char → Option (List UInt8 × List Char)
  | [] => none
  | c :: rest =>
    match simpleEscapes.lookup c with
    | some byte => some ([byte], rest)
    | none =>
      if c = 'x' then numberEscape? 16 2 byteNumbered? rest
      else if c = 'u' then numberEscape? 16 4 characterNumbered? rest
      else if c = 'U' then numberEscape? 16 8 characterNumbered? rest
      else numberEscape? 8 3 byteNumbered? (c :: rest)

/-- What a character or an escape inside a literal denotes, and what comes behind it. A quote closes
the literal, and a line feed must not stand in it. -/
def unit? : List Char → Option (List UInt8 × List Char)
  | [] => none
  | c :: rest =>
    if c = '"' ∨ c = '\n' then none
    else if c = '\\' then escape? rest
    else some (String.utf8EncodeChar c, rest)

section Shorter

variable {s later : List Char} {bytes : List UInt8}

theorem numberEscape?_eq_some {base width : Nat} {denoted? : Nat → Option (List UInt8)} :
    numberEscape? base width denoted? s = some (bytes, later) ↔
      width ≤ s.length ∧ later = s.drop width ∧
        ∃ n, Text.digitsAfter base 0 (s.take width) = some n ∧ denoted? n = some bytes := by
  rw [numberEscape?]
  split
  · rename_i hwidth
    simp only [Option.map_eq_some_iff, Option.bind_eq_some_iff, Prod.mk.injEq]
    constructor
    · rintro ⟨found, ⟨n, hn, hbytes⟩, rfl, rfl⟩
      exact ⟨hwidth, rfl, n, hn, hbytes⟩
    · rintro ⟨-, rfl, n, hn, hbytes⟩
      exact ⟨bytes, ⟨n, hn, hbytes⟩, rfl, rfl⟩
  · rename_i hwidth
    simp [hwidth]

/-- An escape is a single character or a number. -/
theorem escape?_cases {c : Char} (h : escape? (c :: s) = some (bytes, later)) :
    (∃ byte, simpleEscapes.lookup c = some byte ∧ bytes = [byte] ∧ later = s) ∨
      (c = 'x' ∧ numberEscape? 16 2 byteNumbered? s = some (bytes, later)) ∨
      (c = 'u' ∧ numberEscape? 16 4 characterNumbered? s = some (bytes, later)) ∨
      (c = 'U' ∧ numberEscape? 16 8 characterNumbered? s = some (bytes, later)) ∨
      numberEscape? 8 3 byteNumbered? (c :: s) = some (bytes, later) := by
  rw [escape?] at h
  split at h
  · rename_i byte hbyte
    cases h
    exact .inl ⟨byte, hbyte, rfl, rfl⟩
  · split at h
    · exact .inr (.inl ⟨‹_›, h⟩)
    split at h
    · exact .inr (.inr (.inl ⟨‹_›, h⟩))
    split at h
    · exact .inr (.inr (.inr (.inl ⟨‹_›, h⟩)))
    · exact .inr (.inr (.inr (.inr h)))

theorem length_le_of_escape? (h : escape? s = some (bytes, later)) : later.length ≤ s.length := by
  cases s with
  | nil => cases h
  | cons c rest =>
    rw [List.length_cons]
    rcases escape?_cases h with ⟨byte, -, -, rfl⟩ | ⟨-, h⟩ | ⟨-, h⟩ | ⟨-, h⟩ | h
    · omega
    all_goals
      obtain ⟨-, rfl, -⟩ := numberEscape?_eq_some.1 h
      simp only [List.length_drop, List.length_cons]
      omega

theorem length_lt_of_unit? (h : unit? s = some (bytes, later)) : later.length < s.length := by
  cases s with
  | nil => cases h
  | cons c rest =>
    rw [unit?] at h
    rw [List.length_cons]
    split at h
    · cases h
    split at h
    · have := length_le_of_escape? h
      omega
    · cases h
      omega

end Shorter

/-- What the content of a literal denotes, and what comes behind its closing quote. -/
def content? (s : List Char) : Option (List UInt8 × List Char) :=
  match _h : unit? s with
  | some (bytes, later) => (content? later).map (Prod.map (bytes ++ ·) id)
  | none => if s.head? = some '"' then some ([], s.tail) else none
termination_by s.length
decreasing_by exact length_lt_of_unit? _h

/-- What the literal denotes that a text starts with, and what comes behind it. -/
def literal? : List Char → Option (List UInt8 × List Char)
  | '"' :: rest => content? rest
  | _ => none

/-- A literal denotes a text. -/
def Denotes (literal s : List Char) : Prop :=
  literal? literal = some (bytesOf s, [])

section Content

variable {s later : List Char} {bytes : List UInt8}

theorem content?_quote (rest : List Char) : content? ('"' :: rest) = some ([], rest) := by
  rw [content?]
  split
  · rename_i bytes later h
    cases h
  · rfl

theorem content?_unit (h : unit? s = some (bytes, later)) :
    content? s = (content? later).map (Prod.map (bytes ++ ·) id) := by
  rw [content?]
  split
  · rename_i found rest hfound
    rw [h] at hfound
    cases hfound
    rfl
  · rename_i hnone
    rw [h] at hnone
    cases hnone

/-- A literal that does not close at once begins with a unit. -/
theorem content?_eq_some {c : Char} {after : List Char} (hc : c ≠ '"')
    (h : content? (c :: s) = some (bytes, after)) :
    ∃ first later more, unit? (c :: s) = some (first, later) ∧
      content? later = some (more, after) ∧ bytes = first ++ more := by
  rw [content?] at h
  split at h
  · rename_i first later hunit
    obtain ⟨⟨more, rest⟩, hmore, hboth⟩ := Option.map_eq_some_iff.1 h
    cases hboth
    exact ⟨first, later, more, hunit, hmore, rfl⟩
  · rw [List.head?_cons, if_neg (mt Option.some.inj hc)] at h
    cases h

/-- **What is written unit by unit is read back.** -/
theorem content?_flatMap {write : Char → List Char}
    (h : ∀ c ∈ s, ∀ rest, unit? (write c ++ rest) = some (String.utf8EncodeChar c, rest))
    (rest : List Char) :
    content? (s.flatMap write ++ '"' :: rest) = some (bytesOf s, rest) := by
  induction s with
  | nil => exact content?_quote rest
  | cons c more ih =>
    obtain ⟨hc, hmore⟩ := List.forall_mem_cons.1 h
    rw [List.flatMap_cons, List.append_assoc, content?_unit (hc _), ih hmore]
    rfl

/-- A literal denotes one text at most. -/
theorem Denotes.unique {literal s t : List Char} (hs : Denotes literal s) (ht : Denotes literal t) :
    s = t := by
  have hboth : some (bytesOf s, []) = some (bytesOf t, []) := hs.symm.trans ht
  rw [Option.some.injEq, Prod.mk.injEq] at hboth
  exact bytesOf_injective hboth.1

end Content

/-! ## Writing a literal -/

section Writing

variable {c : Char} {n : Nat}

theorem digit?_digitChar (h : n < 16) : Text.digit? 16 (Text.digitChar n) = some n := by
  revert n
  decide

/-- Four hexadecimal digits are enough below `16 ^ 4`. -/
theorem digitsAfter_hexDigits (h : n < 65536) :
    Text.digitsAfter 16 0 (Text.hexDigits 4 n) = some n := by
  have hdigit : ∀ m, Text.digit? 16 (Text.digitChar (m % 16)) = some (m % 16) := fun m =>
    digit?_digitChar (Nat.mod_lt m (by decide))
  have hdigits : Text.hexDigits 4 n = [Text.digitChar (n / 4096 % 16),
      Text.digitChar (n / 256 % 16), Text.digitChar (n / 16 % 16), Text.digitChar (n / 1 % 16)] := rfl
  simp only [hdigits, Text.digitsAfter, hdigit, Option.bind_some, Option.some.injEq]
  omega

theorem numberEscape?_append {base width : Nat} {denoted? : Nat → Option (List UInt8)}
    {digits rest : List Char} {bytes : List UInt8} (hwidth : digits.length = width)
    (hn : Text.digitsAfter base 0 digits = some n) (hbytes : denoted? n = some bytes) :
    numberEscape? base width denoted? (digits ++ rest) = some (bytes, rest) := by
  subst hwidth
  rw [numberEscape?_eq_some, List.take_left, List.drop_left, List.length_append]
  exact ⟨Nat.le_add_right _ _, rfl, n, hn, hbytes⟩

/-- A character may be written by its number, when four digits are enough. -/
theorem unit?_hexDigits (h : c.toNat < 65536) (rest : List Char) :
    unit? ('\\' :: 'u' :: Text.hexDigits 4 c.toNat ++ rest) =
      some (String.utf8EncodeChar c, rest) := by
  have hcharacter : characterNumbered? c.toNat = some (String.utf8EncodeChar c) := by
    rw [characterNumbered?, if_pos (show c.toNat.isValidChar from c.valid), Char.ofNat_toNat]
  exact numberEscape?_append rfl (digitsAfter_hexDigits h) hcharacter

theorem toNat_lt_of_isControl (h : Unicode.isControl c = true) : c.toNat < 160 := by
  rw [Unicode.isControl, Bool.or_eq_true, Bool.and_eq_true, decide_eq_true_eq, decide_eq_true_eq,
    decide_eq_true_eq] at h
  omega

theorem unit?_self (h : c ≠ '"' ∧ c ≠ '\\' ∧ c ≠ '\n') (rest : List Char) :
    unit? ([c] ++ rest) = some (String.utf8EncodeChar c, rest) := by
  rw [List.singleton_append, unit?, if_neg (by simp [h.1, h.2.2]), if_neg h.2.1]

/-- A character inside a literal is read as one unit. -/
theorem unit?_literalChar (c : Char) (rest : List Char) :
    unit? (literalChar c ++ rest) = some (String.utf8EncodeChar c, rest) := by
  rw [literalChar]
  split
  · subst c
    rfl
  split
  · subst c
    rfl
  split
  · subst c
    rfl
  split
  · subst c
    rfl
  split
  · subst c
    rfl
  split
  · rename_i hcontrol
    have := toNat_lt_of_isControl hcontrol
    exact unit?_hexDigits (by omega) rest
  · rename_i hquote hbackslash hfeed _ _ _
    exact unit?_self ⟨hquote, hbackslash, hfeed⟩ rest

theorem isControl_digitChar (h : n < 16) : Unicode.isControl (Text.digitChar n) = false := by
  revert n
  decide

/-- A character is written as itself only if it is no control character, and otherwise as an escape
of two characters or as a number. -/
theorem literalChar_cases (c : Char) :
    (∃ d, Unicode.isControl d = false ∧ literalChar c = ['\\', d]) ∨
      literalChar c = '\\' :: 'u' :: Text.hexDigits 4 c.toNat ∨
      (Unicode.isControl c = false ∧ literalChar c = [c]) := by
  rw [literalChar]
  split
  · exact .inl ⟨'"', by decide, rfl⟩
  split
  · exact .inl ⟨'\\', by decide, rfl⟩
  split
  · exact .inl ⟨'n', by decide, rfl⟩
  split
  · exact .inl ⟨'r', by decide, rfl⟩
  split
  · exact .inl ⟨'t', by decide, rfl⟩
  split
  · exact .inr (.inl rfl)
  · rename_i hcontrol
    exact .inr (.inr ⟨Bool.eq_false_iff.2 hcontrol, rfl⟩)

/-- No control character is left. -/
theorem isControl_of_mem_literalChar : ∀ d ∈ literalChar c, Unicode.isControl d = false := by
  rcases literalChar_cases c with ⟨d, hd, h⟩ | h | ⟨hcontrol, h⟩
  · rw [h, List.forall_mem_cons, List.forall_mem_singleton]
    exact ⟨by decide, hd⟩
  · rw [h, List.forall_mem_cons, List.forall_mem_cons]
    refine ⟨by decide, by decide, ?_⟩
    intro d hd
    obtain ⟨i, -, rfl⟩ := List.mem_map.1 hd
    exact isControl_digitChar (Nat.mod_lt _ (by decide))
  · rwa [h, List.forall_mem_singleton]

theorem toList_goLiteral (s : String) :
    (goLiteral s).toList = '"' :: (s.toList.flatMap literalChar ++ ['"']) := by
  rw [goLiteral, String.toList_ofList, literalChars]
  rfl

theorem denotes_goLiteral (s : String) : Denotes (goLiteral s).toList s.toList := by
  rw [Denotes, toList_goLiteral]
  exact content?_flatMap (fun c _ => unit?_literalChar c) []

theorem isControl_of_mem_goLiteral {s : String} : ∀ c ∈ (goLiteral s).toList,
    Unicode.isControl c = false := by
  rw [toList_goLiteral, List.forall_mem_cons, List.forall_mem_append, List.forall_mem_flatMap,
    List.forall_mem_singleton]
  exact ⟨by decide, fun c _ => isControl_of_mem_literalChar, by decide⟩

end Writing

end EntSchema.Schema
