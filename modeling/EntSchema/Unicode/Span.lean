/-!
# Spans: sets of code points written as arithmetic progressions

The character classes of this library are data of a standard: long lists of code points with a
regular shape. Most are runs (`first`, `first + 1`, …, `last`), and in the scripts with two cases
capitals and small letters alternate, so every second code point belongs to a class. One shape
covers both: a progression from `first` to `last` with a fixed `step`.

Every class answers for ASCII by a rule of its own and consults its table only from U+0080 on. A
statement about ASCII text therefore never looks into a table.
-/

namespace EntSchema.Unicode

/-- The code points `first`, `first + step`, …, up to and including `last`. -/
structure Span where
  first : Nat
  last : Nat
  step : Nat

namespace Span

/-- Whether `n` is one of the code points of the span. -/
def holds (s : Span) (n : Nat) : Bool :=
  s.first ≤ n && n ≤ s.last && (n - s.first) % s.step == 0

end Span

/-- Whether one of the spans holds the code point of `c`. -/
def inSpans (spans : List Span) (c : Char) : Bool :=
  spans.any (·.holds c.toNat)

/-- Whether `c` is one of the 128 characters of ASCII. -/
def isAscii (c : Char) : Bool :=
  c.toNat < 128

end EntSchema.Unicode
