import EntSchema.Unicode.Span

/-!
# Blanks and control characters

The property `White_Space` and the category of control characters. Both hold characters of ASCII
and a few beyond it: the control characters are exactly U+0000 to U+001F and U+007F to U+009F.
-/

namespace EntSchema.Unicode

/-- The blanks from U+0080 on. -/
def blankSpans : List Span := [
  ⟨0x85, 0x85, 1⟩, ⟨0xA0, 0xA0, 1⟩, ⟨0x1680, 0x1680, 1⟩, ⟨0x2000, 0x200A, 1⟩, ⟨0x2028, 0x2029, 1⟩,
  ⟨0x202F, 0x202F, 1⟩, ⟨0x205F, 0x205F, 1⟩, ⟨0x3000, 0x3000, 1⟩]

/-- Whether `c` has the property `White_Space`. -/
def isBlank (c : Char) : Bool :=
  if isAscii c then c == ' ' || (9 ≤ c.toNat && c.toNat ≤ 13) else inSpans blankSpans c

/-- Whether `c` is a control character. -/
def isControl (c : Char) : Bool :=
  c.toNat < 0x20 || (0x7F ≤ c.toNat && c.toNat < 0xA0)

/-- A text without the blanks at its two ends. -/
def trim (s : List Char) : List Char :=
  ((s.dropWhile isBlank).reverse.dropWhile isBlank).reverse

end EntSchema.Unicode
