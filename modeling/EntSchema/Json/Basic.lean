import EntSchema.Decimal.Magnitude

/-!
# JSON values

The values of a JSON document. A number keeps apart what was written as an integer of at most 64
bits and everything else, which is a binary64 number: the two are printed differently, and only
the first counts as an integer. An object lists its fields sorted by key, each key once; that is
the order in which it is printed and in which "first" and "last" field are meant.
-/

namespace EntSchema.Json

/-- A number of a JSON document. -/
inductive Number where
  | integer (value : Int)
  | real (negative : Bool) (size : Decimal.Magnitude)
  deriving DecidableEq, Repr, Inhabited

end EntSchema.Json

namespace EntSchema

/-- A JSON value. -/
inductive Json where
  | null
  | bool (value : Bool)
  | number (value : Json.Number)
  | text (value : String)
  | array (items : List Json)
  | object (fields : List (String × Json))
  deriving Repr, Inhabited

namespace Json

/-- The items of an array; any other value has none. -/
def items : Json → List Json
  | array items => items
  | _ => []

/-- The first field of an object, when it has one: a value `{"Tag": body}` as its tag and body. -/
def tagged? : Json → Option (String × Json)
  | object (field :: _) => some field
  | _ => none

/-- The value of the last field of an object, in key order. -/
def lastField? : Json → Option Json
  | object fields => fields.getLast?.map (·.2)
  | _ => none

/-- The content of a text. -/
def text? : Json → Option String
  | text value => some value
  | _ => none

/-- Whether the value is `true`. -/
def isTrue : Json → Bool
  | bool value => value
  | _ => false

end Json

end EntSchema
