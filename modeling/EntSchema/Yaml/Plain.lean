import EntSchema.Decimal.Magnitude
import EntSchema.Text.Numeral

/-!
# What a plain scalar means

A plain scalar without a tag can be read as null, a truth value, a number or a text. The numbers
are integers to base 10, or with a mark to base 16, 8 or 2, and finite decimal fractions. Digits
after a leading zero are no number, and neither are digits with underscores or colons.
-/

namespace EntSchema.Yaml

/-- Whether a plain scalar means that there is nothing. -/
def isNull (s : String) : Bool :=
  ["", "~", "null", "Null", "NULL"].contains s

/-- The truth value that a plain scalar means. -/
def bool? (s : String) : Option Bool :=
  if ["true", "True", "TRUE"].contains s then some true
  else if ["false", "False", "FALSE"].contains s then some false
  else none

/-- Whether `c` is a sign. -/
def isSign (c : Char) : Bool := c == '+' || c == '-'

/-- A text without its first character, if that is a sign. -/
def dropSign : List Char → List Char
  | c :: rest => if isSign c then rest else c :: rest
  | [] => []

/-- Whether a text is more than one digit, the first of which is zero. A sign may come first. -/
def hasLeadingZero (s : List Char) : Bool :=
  let digits := dropSign s
  1 < digits.length && digits.head? == some '0' && digits.all Char.isDigit

/-- Whether a text is digits to a base of which the number is at most `greatest`. -/
def isDigits (base greatest : Nat) (s : List Char) : Bool :=
  ((Text.natural? base s).filter (· ≤ greatest)).isSome

/-- The marks of a base. -/
def baseMarks : List (List Char × Nat) :=
  [(['0', 'x'], 16), (['0', 'o'], 8), (['0', 'b'], 2)]

/-- Whether a text is an integer with the mark of its base, of at most 128 bits. -/
def isMarkedInteger (s : List Char) : Bool :=
  let (digits, greatest) := match s with
    | '-' :: rest => (rest, Nat.pow 2 127)
    | _ => (Text.dropPlus s, Nat.pow 2 128 - 1)
  baseMarks.any fun (mark, base) =>
    mark.isPrefixOf digits && isDigits base greatest (digits.drop mark.length)

/-- The digits of a decimal fraction with at least one digit: those before and after the point. -/
def fraction? (s : List Char) : Option (List Char × List Char × List Char) :=
  let whole := s.takeWhile Char.isDigit
  let rest := s.drop whole.length
  let (decimals, rest) := match rest with
    | '.' :: more =>
      let decimals := more.takeWhile Char.isDigit
      (decimals, more.drop decimals.length)
    | _ => ([], rest)
  if whole.isEmpty && decimals.isEmpty then none else some (whole, decimals, rest)

/-- The value of an exponent with its mark, or zero where nothing is left. -/
def exponent? : List Char → Option Int
  | [] => some 0
  | mark :: rest =>
    if mark == 'e' || mark == 'E' then
      let magnitude := Text.natural? 10 (dropSign rest)
      if rest.head? == some '-' then magnitude.map fun n => -(n : Int) else magnitude.map Int.ofNat
    else none

/-- The exponents from which on a number is too large whatever its digits. -/
def greatestExponent : Int := 400

/-- Whether `digits · 10 ^ exponent` is at most the largest binary64 number. -/
def isFinite (digits : List Char) (exponent : Int) : Bool :=
  let significant := digits.dropWhile (· == '0')
  let size : Int := significant.length + exponent
  if significant.isEmpty || size < -greatestExponent then true
  else if greatestExponent < size then false
  else match Text.natural? 10 significant with
    | some n =>
      let ratio := Decimal.decimalRatio n exponent
      (Decimal.nearest? ratio.1 ratio.2).isSome
    | none => true

/-- Whether a text is a finite decimal fraction. A sign may come first. -/
def isDecimal (s : List Char) : Bool :=
  match fraction? (dropSign s) with
  | none => false
  | some (whole, decimals, rest) =>
    match exponent? rest with
    | none => false
    | some e => isFinite (whole ++ decimals) (e - decimals.length)

/-- The numbers that have a name. -/
def numberNames : List String :=
  [".inf", ".Inf", ".INF", "+.inf", "+.Inf", "+.INF", "-.inf", "-.Inf", "-.INF", ".nan", ".NaN",
    ".NAN"]

/-- Whether a plain scalar means a number. -/
def isNumber (s : String) : Bool :=
  let chars := s.toList
  isMarkedInteger chars || numberNames.contains s || (!hasLeadingZero chars && isDecimal chars)

end EntSchema.Yaml
