import EntSchema.Decimal.Shortest
import EntSchema.Json.Basic
import EntSchema.Text.Numeral

/-!
# JSON values as text

The compact form: no blanks, fields in key order. In a string only the quote, the backslash and
the characters below U+0020 are escaped. An integer is its decimal numeral. A real number has the
fewest digits that read back; it is written positionally, with at least one decimal, from `1e-5`
up to but not including `1e16`, and with an exponent otherwise.
-/

namespace EntSchema.Json

/-! ## Strings -/

/-- A character as it stands inside a quoted string. -/
def escapeChar (c : Char) : List Char :=
  if c = '"' then ['\\', '"']
  else if c = '\\' then ['\\', '\\']
  else if c = '\x08' then ['\\', 'b']
  else if c = '\x0c' then ['\\', 'f']
  else if c = '\n' then ['\\', 'n']
  else if c = '\r' then ['\\', 'r']
  else if c = '\t' then ['\\', 't']
  else if c.toNat < 0x20 then '\\' :: 'u' :: Text.hexDigits 4 c.toNat
  else [c]

/-- A quoted string. -/
def quote (s : List Char) : List Char :=
  '"' :: s.flatMap escapeChar ++ ['"']

/-! ## Numbers -/

/-- Positional notation is used while the point comes after at most so many digits … -/
def greatestPoint : Int := 16

/-- … and at most so many zeros come between the point and the first digit. -/
def leastPoint : Int := -4

/-- A row of zeros. -/
def zeros (n : Int) : List Char := List.replicate n.toNat '0'

/-- A decimal in the notation of its size. -/
def decimalText (d : Decimal.Digits) : List Char :=
  let ds := Nat.toDigits 10 d.digits
  let point : Int := ds.length + d.exponent
  if d.digits = 0 then ['0', '.', '0']
  else if 0 ≤ d.exponent ∧ point ≤ greatestPoint then ds ++ zeros d.exponent ++ ['.', '0']
  else if 0 < point ∧ point ≤ greatestPoint then
    ds.take point.toNat ++ '.' :: ds.drop point.toNat
  else if leastPoint ≤ point ∧ point ≤ 0 then '0' :: '.' :: zeros (-point) ++ ds
  else
    let decimals := if ds.length = 1 then [] else '.' :: ds.drop 1
    let mark := if 0 < point then ['e', '+'] else ['e', '-']
    ds.take 1 ++ decimals ++ mark ++ Nat.toDigits 10 (point - 1).natAbs

namespace Number

/-- A number as text. -/
def render : Number → List Char
  | integer value => (toString value).toList
  | real negative size =>
    let digits := decimalText (Decimal.shortest size)
    if negative then '-' :: digits else digits

end Number

/-! ## Values -/

mutual

/-- A value in compact form, over characters. -/
def chars : Json → List Char
  | null => ['n', 'u', 'l', 'l']
  | bool true => ['t', 'r', 'u', 'e']
  | bool false => ['f', 'a', 'l', 's', 'e']
  | number value => value.render
  | text value => quote value.toList
  | array items => '[' :: itemChars items ++ [']']
  | object fields => '\x7b' :: fieldChars fields ++ ['\x7d']

/-- The items of an array, with commas between them. -/
def itemChars : List Json → List Char
  | [] => []
  | [item] => chars item
  | item :: rest => chars item ++ ',' :: itemChars rest

/-- The fields of an object, with commas between them. -/
def fieldChars : List (String × Json) → List Char
  | [] => []
  | [(key, value)] => quote key.toList ++ ':' :: chars value
  | (key, value) :: rest => quote key.toList ++ ':' :: chars value ++ ',' :: fieldChars rest

end

/-- A value in compact form. -/
def render (value : Json) : String :=
  String.ofList (chars value)

end EntSchema.Json
