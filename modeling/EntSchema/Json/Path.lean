import EntSchema.Json.Basic
import EntSchema.Text.Numeral
import EntSchema.Text.Pieces

/-!
# Dotted paths into a JSON value

A path such as `keys.0.String.str` names a value inside another one. Its steps are the pieces
between the dots, empty ones included; a step is a key inside an object and a position inside an
array, and leads nowhere inside any other value.

Following a path is following its steps one after the other (`follow?_append`), so a path that is
joined from two by a dot may be followed in two halves (`get?_append_dot`). No step of a path
contains a dot (`dot_not_mem_of_mem_steps`).
-/

namespace EntSchema.Json

/-- The value that one step leads to. -/
def step? (step : List Char) : Json → Option Json
  | object fields => fields.lookup (String.ofList step)
  | array items => (Text.index? step).bind fun i => items[i]?
  | _ => none

/-- The value that some steps lead to. -/
def follow? : List (List Char) → Json → Option Json
  | [], value => some value
  | step :: rest, value => (step? step value).bind (follow? rest)

/-- The steps of a dotted path. -/
def steps (path : String) : List (List Char) :=
  Text.pieces (· == '.') path.toList

/-- The value that a dotted path leads to. -/
def get? (value : Json) (path : String) : Option Json :=
  follow? (steps path) value

/-- The text that a dotted path leads to; absent when it is empty or no text. -/
def nonEmptyText? (value : Json) (path : String) : Option String :=
  ((value.get? path).bind text?).filter (· ≠ "")

/-- The content of a value `{"String": {"str": text}}`. -/
def stringNode? (value : Json) : Option String :=
  (value.get? "String.str").bind text?

/-- The contents of the string nodes of an array; other items are left out. -/
def stringNodes (value : Json) : List String :=
  value.items.filterMap stringNode?

/-- The value as a signed 64-bit integer: an integer in that range, or a text that is the decimal
numeral of one. -/
def int64? : Json → Option Int
  | number (.integer n) => if -(Nat.pow 2 63 : Int) ≤ n ∧ n < Nat.pow 2 63 then some n else none
  | text s => Text.int64? s.toList
  | _ => none

/-! ## Following joined paths -/

/-- Following steps is following the first ones and then the others. -/
theorem follow?_append (first second : List (List Char)) (value : Json) :
    follow? (first ++ second) value = (follow? first value).bind (follow? second) := by
  induction first generalizing value with
  | nil => rfl
  | cons step rest ih =>
    rw [List.cons_append, follow?, follow?]
    cases step? step value with
    | none => rfl
    | some next => exact ih next

theorem steps_append_dot (path rest : String) :
    steps (path ++ "." ++ rest) = steps path ++ steps rest := by
  have hchars : (path ++ "." ++ rest).toList = path.toList ++ '.' :: rest.toList := by
    rw [String.toList_append, String.toList_append, List.append_assoc]
    rfl
  rw [steps, hchars]
  exact Text.pieces_append_cons rfl _ _

/-- **A lookup in two halves**: a joined path leads to what its second part leads to from where its
first part ends, and nowhere when one of them leads nowhere. -/
theorem get?_append_dot (value : Json) (path rest : String) :
    value.get? (path ++ "." ++ rest) = (value.get? path).bind (·.get? rest) := by
  rw [get?, steps_append_dot, follow?_append]
  rfl

theorem nonEmptyText?_append_dot {value middle : Json} {path : String} (rest : String)
    (h : value.get? path = some middle) :
    value.nonEmptyText? (path ++ "." ++ rest) = middle.nonEmptyText? rest := by
  rw [nonEmptyText?, get?_append_dot, h]
  rfl

/-- Where a key contains a dot, no step leads to it. -/
theorem dot_not_mem_of_mem_steps {path : String} {step : List Char} (h : step ∈ steps path) :
    '.' ∉ step := by
  intro hmem
  simpa using Text.isSeparator_eq_false_of_mem_pieces h hmem

end EntSchema.Json
