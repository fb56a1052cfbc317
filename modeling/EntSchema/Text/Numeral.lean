/-!
# Numerals

Whole numbers as they are written: a run of digits in some base, and the two bounded readings of
this library. `index?` reads a position (at most 64 bits, a plus sign allowed), `int64?` a signed
64-bit number. Both take leading zeros and refuse blanks and underscores.
-/

namespace EntSchema.Text

/-- The value of a digit in `base`, with letters of either case for the digits from ten on. -/
def digit? (base : Nat) (c : Char) : Option Nat :=
  let value? :=
    if '0' ≤ c ∧ c ≤ '9' then some (c.toNat - '0'.toNat)
    else if 'a' ≤ c ∧ c ≤ 'z' then some (c.toNat - 'a'.toNat + 10)
    else if 'A' ≤ c ∧ c ≤ 'Z' then some (c.toNat - 'A'.toNat + 10)
    else none
  value?.filter (· < base)

/-- The value of a run of digits that continues a number `seen`; `none` at any other character. -/
def digitsAfter (base seen : Nat) : List Char → Option Nat
  | [] => some seen
  | c :: rest => (digit? base c).bind fun d => digitsAfter base (seen * base + d) rest

/-- Where a run of digits has a value, it holds no other character. -/
theorem not_mem_of_digitsAfter {base seen n : Nat} {s : List Char} {c : Char}
    (hc : digit? base c = none) (h : digitsAfter base seen s = some n) : c ∉ s := by
  induction s generalizing seen with
  | nil => exact List.not_mem_nil
  | cons d s ih =>
    obtain ⟨value, hvalue, hrest⟩ := Option.bind_eq_some_iff.1 h
    refine List.not_mem_cons_of_ne_of_not_mem ?_ (ih hrest)
    rintro rfl
    rw [hc] at hvalue
    cases hvalue

/-- The value of one or more digits. -/
def natural? (base : Nat) (s : List Char) : Option Nat :=
  if s.isEmpty then none else digitsAfter base 0 s

/-- A text without the plus sign that it may start with. -/
def dropPlus : List Char → List Char
  | '+' :: rest => rest
  | s => s

/-- A position: decimal digits, with an optional plus sign, below `2 ^ 64`. -/
def index? (s : List Char) : Option Nat :=
  (natural? 10 (dropPlus s)).filter (· < Nat.pow 2 64)

/-- A signed number: decimal digits, with an optional sign, from `-2 ^ 63` to `2 ^ 63 - 1`. -/
def int64? : List Char → Option Int
  | '-' :: rest => ((natural? 10 rest).filter (· ≤ Nat.pow 2 63)).map fun n => -(n : Int)
  | s => ((natural? 10 (dropPlus s)).filter (· < Nat.pow 2 63)).map Int.ofNat

/-- The digit that stands for `n`, in small letters from ten on. -/
def digitChar (n : Nat) : Char :=
  if n < 10 then Char.ofNat ('0'.toNat + n) else Char.ofNat ('a'.toNat + (n - 10))

/-- The last `width` hexadecimal digits of `n`, leading zeros included. -/
def hexDigits (width n : Nat) : List Char :=
  (List.range width).reverse.map fun i => digitChar (n / Nat.pow 16 i % 16)

end EntSchema.Text
