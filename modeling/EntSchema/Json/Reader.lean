import EntSchema.Json.Basic
import EntSchema.Ordered.Map
import EntSchema.Text.Numeral

/-!
# Reading JSON text

A strict reader: no comments, no trailing commas, no leading zeros, no control characters inside
strings, escapes of surrogates only in pairs, and nothing but blanks after the value. Arrays and
objects nest at most 127 deep.

Every reader takes the text from where it stands and hands back what it read together with the
text that is left. The readers of nested values count down a bound that the length of the text
gives: no call happens without a character to account for it.

## Real numbers

A number with a fraction or an exponent, and an integer beyond 64 bits, is read in two steps. The
leading digits form a significand of at most 64 bits; once a digit does not fit, it and the digits
after it only count towards the exponent. Then the significand is scaled by a power of ten.
-/

namespace EntSchema.Json

/-- Blanks between the parts of a document. -/
def isGap (c : Char) : Bool :=
  c == ' ' || c == '\t' || c == '\n' || c == '\r'

/-- A text without the blanks that it starts with. -/
def dropGap (s : List Char) : List Char := s.dropWhile isGap

/-- A text that starts with `word`, without it. -/
def dropWord? (word s : List Char) : Option (List Char) :=
  if word.isPrefixOf s then some (s.drop word.length) else none

/-! ## Numbers -/

/-- The largest significand. -/
def greatestSignificand : Nat := Nat.pow 2 64 - 1

/-- The value of a decimal digit. -/
def decimalDigit? (c : Char) : Option Nat := Text.digit? 10 c

/--
The digits at the start of a text: the significand that `significand` grows into, how many digits
went into it, how many more digits follow, and the text after all digits.
-/
def digitRun (significand taken dropped : Nat) : List Char → Nat × Nat × Nat × List Char
  | [] => (significand, taken, dropped, [])
  | c :: rest =>
    match decimalDigit? c with
    | none => (significand, taken, dropped, c :: rest)
    | some d =>
      if dropped = 0 ∧ significand * 10 + d ≤ greatestSignificand then
        digitRun (significand * 10 + d) (taken + 1) 0 rest
      else digitRun significand taken (dropped + 1) rest

/-- The value of an exponent, up to the largest signed 32-bit number; larger ones are absent. -/
def exponentValue? (digits : List Char) : Option Nat :=
  (Text.natural? 10 digits).filter (· < Nat.pow 2 31)

/-- An exponent as written after its mark: its sign, its value when that is not too large, and
the text after it. -/
def readExponent (s : List Char) : Option (Bool × Option Nat × List Char) :=
  let (negative, s) := match s with
    | '+' :: rest => (false, rest)
    | '-' :: rest => (true, rest)
    | _ => (false, s)
  let digits := s.takeWhile fun c => (decimalDigit? c).isSome
  if digits.isEmpty then none
  else some (negative, exponentValue? digits, s.drop digits.length)

/-- A 32-bit exponent clamps instead of overflowing. -/
def clampExponent (e : Int) : Int :=
  max (-(Nat.pow 2 31 : Int)) (min (Nat.pow 2 31 - 1 : Int) e)

/--
The size `significand · 10 ^ exponent`, where the text may go on with an exponent of its own. An
exponent that is too large makes zero when it is negative or the significand is zero, and no
number else.
-/
def readScaled (significand : Nat) (exponent : Int) (s : List Char) :
    Option (Decimal.Magnitude × List Char) :=
  let plain := (Decimal.scale? significand exponent).map fun size => (size, s)
  match s with
  | c :: rest =>
    if c = 'e' ∨ c = 'E' then
      (readExponent rest).bind fun
        | (negative, some e, left) =>
          let total := clampExponent (if negative then exponent - e else exponent + e)
          (Decimal.scale? significand total).map fun size => (size, left)
        | (negative, none, left) =>
          if negative ∨ significand = 0 then some (.zero, left) else none
    else plain
  | [] => plain

/--
The number without its sign at the start of a text. A number with a fraction needs a digit after
the point.
-/
def readUnsigned (negative : Bool) (s : List Char) : Option (Number × List Char) :=
  let real := fun (size, rest) => (Number.real negative size, rest)
  let (significand, taken, dropped, rest) := digitRun 0 0 0 s
  let leadingZero := match s with
    | '0' :: c :: _ => (decimalDigit? c).isSome
    | _ => false
  if taken = 0 ∨ leadingZero = true then none
  else match rest with
    | '.' :: decimals =>
      let (longer, fraction, ignored, left) := digitRun significand 0 0 decimals
      if fraction = 0 ∧ ignored = 0 then none
      else (readScaled longer (dropped - fraction : Int) left).map real
    | _ =>
      let isReal := dropped ≠ 0 ∨ rest.head? = some 'e' ∨ rest.head? = some 'E'
      if isReal then (readScaled significand dropped rest).map real
      else if negative then
        if 0 < significand ∧ significand ≤ Nat.pow 2 63 then
          some (.integer (-(significand : Int)), rest)
        else (readScaled significand 0 rest).map real
      else some (.integer significand, rest)

/-- The number at the start of a text. -/
def readNumber (s : List Char) : Option (Number × List Char) :=
  match s with
  | '-' :: rest => readUnsigned true rest
  | _ => readUnsigned false s

/-! ## Strings -/

/-- Four hexadecimal digits. -/
def readHex4 (s : List Char) : Option (Nat × List Char) :=
  match s with
  | a :: b :: c :: d :: rest => (Text.natural? 16 [a, b, c, d]).map fun n => (n, rest)
  | _ => none

/-- Whether a code unit is the first of a surrogate pair. -/
def isHighSurrogate (n : Nat) : Bool := 0xD800 ≤ n && n < 0xDC00

/-- Whether a code unit is the second of a surrogate pair. -/
def isLowSurrogate (n : Nat) : Bool := 0xDC00 ≤ n && n < 0xE000

/-- The character of an escape by code units: one unit, or a pair of surrogates. -/
def readCodeUnits (s : List Char) : Option (Char × List Char) :=
  match readHex4 s with
  | some (high, rest) =>
    if isLowSurrogate high then none
    else if isHighSurrogate high then
      match rest with
      | '\\' :: 'u' :: more =>
        match readHex4 more with
        | some (low, left) =>
          if isLowSurrogate low then
            some (Char.ofNat (0x10000 + (high - 0xD800) * 0x400 + (low - 0xDC00)), left)
          else none
        | none => none
      | _ => none
    else some (Char.ofNat high, rest)
  | none => none

/-- The character that an escape stands for, where the text starts after the backslash. -/
def readEscape (s : List Char) : Option (Char × List Char) :=
  match s with
  | '"' :: rest => some ('"', rest)
  | '\\' :: rest => some ('\\', rest)
  | '/' :: rest => some ('/', rest)
  | 'b' :: rest => some ('\x08', rest)
  | 'f' :: rest => some ('\x0c', rest)
  | 'n' :: rest => some ('\n', rest)
  | 'r' :: rest => some ('\r', rest)
  | 't' :: rest => some ('\t', rest)
  | 'u' :: rest => readCodeUnits rest
  | _ => none

/-- The rest of a string after the content `seen`, given backwards, and the text after its closing
quote; `fuel` bounds the characters. -/
def readString (seen : List Char) : (fuel : Nat) → List Char → Option (List Char × List Char)
  | 0, _ => none
  | fuel + 1, s =>
    match s with
    | [] => none
    | '"' :: rest => some (seen.reverse, rest)
    | '\\' :: rest => (readEscape rest).bind fun (c, left) => readString (c :: seen) fuel left
    | c :: rest => if c.toNat < 0x20 then none else readString (c :: seen) fuel rest

/-- The key of a field with its colon, and the text from the value on. -/
def readKey (fuel : Nat) (s : List Char) : Option (String × List Char) :=
  match s with
  | '"' :: tail =>
    (readString [] fuel tail).bind fun (key, rest) =>
      match dropGap rest with
      | ':' :: rest => some (.ofList key, dropGap rest)
      | _ => none
  | _ => none

/-! ## Values -/

/-- How deep arrays and objects may nest. -/
def greatestDepth : Nat := 127

mutual

/--
The value at the start of a text, inside which arrays and objects nest at most `depth` deep. The
bound `fuel` is twice the length of the text or more: every character costs at most two.
-/
def readValue : (fuel depth : Nat) → List Char → Option (Json × List Char)
  | 0, _, _ => none
  | fuel + 1, depth, s =>
    match s with
    | 'n' :: _ => (dropWord? ['n', 'u', 'l', 'l'] s).map fun rest => (.null, rest)
    | 't' :: _ => (dropWord? ['t', 'r', 'u', 'e'] s).map fun rest => (.bool true, rest)
    | 'f' :: _ => (dropWord? ['f', 'a', 'l', 's', 'e'] s).map fun rest => (.bool false, rest)
    | '"' :: tail =>
      (readString [] fuel tail).map fun (content, rest) => (.text (.ofList content), rest)
    | '[' :: tail =>
      match depth, dropGap tail with
      | 0, _ => none
      | _, ']' :: rest => some (.array [], rest)
      | d + 1, inner => (readItems fuel d inner).map fun (items, rest) => (.array items, rest)
    | '\x7b' :: tail =>
      match depth, dropGap tail with
      | 0, _ => none
      | _, '\x7d' :: rest => some (.object [], rest)
      | d + 1, inner =>
        (readFields fuel d inner).map fun (fields, rest) => (.object (Ordered.mapOf fields), rest)
    | _ => (readNumber s).map fun (value, rest) => (.number value, rest)

/-- One or more items of an array, up to and including its closing bracket. -/
def readItems : (fuel depth : Nat) → List Char → Option (List Json × List Char)
  | 0, _, _ => none
  | fuel + 1, depth, s =>
    match readValue fuel depth s with
    | none => none
    | some (item, rest) =>
      match dropGap rest with
      | ']' :: rest => some ([item], rest)
      | ',' :: rest =>
        (readItems fuel depth (dropGap rest)).map fun (items, rest) => (item :: items, rest)
      | _ => none

/-- One or more fields of an object, up to and including its closing brace. -/
def readFields : (fuel depth : Nat) → List Char → Option (List (String × Json) × List Char)
  | 0, _, _ => none
  | fuel + 1, depth, s =>
    match readKey fuel s with
    | none => none
    | some (key, rest) =>
      match readValue fuel depth rest with
      | none => none
      | some (value, rest) =>
        match dropGap rest with
        | '\x7d' :: rest => some ([(key, value)], rest)
        | ',' :: rest =>
          (readFields fuel depth (dropGap rest)).map fun (fields, rest) =>
            ((key, value) :: fields, rest)
        | _ => none

end

/-- The value that a whole text holds. -/
def parse? (text : String) : Option Json :=
  let s := text.toList
  match readValue (2 * s.length + 2) greatestDepth (dropGap s) with
  | some (value, rest) => if (dropGap rest).isEmpty then some value else none
  | none => none

end EntSchema.Json
