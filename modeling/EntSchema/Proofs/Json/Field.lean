import EntSchema.Json.Path
import EntSchema.Ordered.Map

/-!
# Fields of an object

A node of a document can be changed in one field while the others stay. A path sees such a change
only when its first step is the key of the field: `get?_withField` says what it sees then, and
`get?_withField_of_ne` that it sees nothing else.
-/

namespace EntSchema.Json

variable {node value : Json} {key path : String}

/-! ## Reading a field -/

/-- A key without dots is a path of one step. -/
theorem steps_eq_singleton (h : '.' ∉ key.toList) : steps key = [key.toList] := by
  refine Text.pieces_eq_singleton ?_
  intro c hc
  rw [beq_eq_false_iff_ne]
  rintro rfl
  exact h hc

theorem get?_object {fields : List (String × Json)} (h : '.' ∉ key.toList) :
    (object fields).get? key = fields.lookup key := by
  rw [get?, steps_eq_singleton h, follow?, step?, String.ofList_toList]
  cases fields.lookup key <;> rfl

/-- A value where a path leads somewhere is an object, when the first step is no position. -/
theorem exists_object_of_steps {step : List Char} {rest : List (List Char)}
    (hsteps : steps path = step :: rest) (hindex : Text.index? step = none)
    (h : node.get? path = some value) : ∃ fields, node = object fields := by
  rw [get?, hsteps, follow?] at h
  cases node with
  | object fields => exact ⟨fields, rfl⟩
  | array items =>
    rw [step?, hindex] at h
    cases h
  | null | bool | number | text => cases h

/-- A value where a key that is no position leads somewhere is an object. -/
theorem exists_object (hkey : '.' ∉ key.toList) (hindex : Text.index? key.toList = none)
    (h : node.get? key = some value) : ∃ fields, node = object fields :=
  exists_object_of_steps (steps_eq_singleton hkey) hindex h

/-! ## Putting a field -/

/-- The value with one field put. A value that is no object has no fields and stays as it is. -/
def withField (node : Json) (key : String) (value : Json) : Json :=
  match node with
  | object fields => object (Ordered.put key value fields)
  | other => other

/-- A path that starts with the key goes on in the new value of the field. -/
theorem get?_withField {fields : List (String × Json)} {rest : List (List Char)}
    (h : steps path = key.toList :: rest) :
    ((object fields).withField key value).get? path = follow? rest value := by
  rw [get?, h, withField, follow?, step?, String.ofList_toList, Ordered.lookup_put, if_pos rfl]
  rfl

theorem get?_withField_self {fields : List (String × Json)} (h : '.' ∉ key.toList) :
    ((object fields).withField key value).get? key = some value :=
  get?_withField (steps_eq_singleton h)

/-- Any other path does not see the field. -/
theorem get?_withField_of_ne {step : List Char} {rest : List (List Char)}
    (h : steps path = step :: rest) (hne : step ≠ key.toList) :
    (node.withField key value).get? path = node.get? path := by
  have hother : String.ofList step ≠ key := by
    rintro rfl
    exact hne String.toList_ofList.symm
  cases node with
  | object fields =>
    rw [get?, get?, h, withField, follow?, follow?, step?, step?, Ordered.lookup_put, if_neg hother]
  | null | bool | number | text | array => rfl

theorem nonEmptyText?_withField_of_ne {step : List Char} {rest : List (List Char)}
    (h : steps path = step :: rest) (hne : step ≠ key.toList) :
    (node.withField key value).nonEmptyText? path = node.nonEmptyText? path := by
  rw [nonEmptyText?, nonEmptyText?, get?_withField_of_ne h hne]

end EntSchema.Json
