import EntSchema.Json.Path

/-!
# Parts are smaller than the whole

A definition that follows a path into a value and goes on from there ends, because what a path
with a step leads to, and the body of a tagged value, are smaller than the value.
-/

namespace EntSchema.Json

theorem sizeOf_lt_of_lookup {fields : List (String × Json)} {key : String} {value : Json}
    (h : fields.lookup key = some value) : sizeOf value < sizeOf fields := by
  induction fields with
  | nil => simp at h
  | cons field rest ih =>
    obtain ⟨k, v⟩ := field
    rw [List.lookup_cons] at h
    split at h
    · cases h
      simp only [List.cons.sizeOf_spec, Prod.mk.sizeOf_spec]
      omega
    · have := ih h
      simp only [List.cons.sizeOf_spec]
      omega

theorem sizeOf_lt_of_step? {step : List Char} {value next : Json}
    (h : step? step value = some next) : sizeOf next < sizeOf value := by
  cases value with
  | object fields =>
    have := sizeOf_lt_of_lookup h
    simp only [object.sizeOf_spec]
    omega
  | array items =>
    obtain ⟨i, _, hi⟩ := Option.bind_eq_some_iff.1 h
    have := List.sizeOf_lt_of_mem (List.mem_of_getElem? hi)
    simp only [array.sizeOf_spec]
    omega
  | _ => simp [step?] at h

theorem sizeOf_le_of_follow? {path : List (List Char)} {value next : Json}
    (h : follow? path value = some next) : sizeOf next ≤ sizeOf value := by
  induction path generalizing value with
  | nil => cases h; exact Nat.le_refl _
  | cons step rest ih =>
    obtain ⟨mid, hmid, hrest⟩ := Option.bind_eq_some_iff.1 h
    have := sizeOf_lt_of_step? hmid
    have := ih hrest
    omega

/-- What a dotted path leads to is smaller than the value. -/
theorem sizeOf_lt_of_get? {value next : Json} {path : String}
    (h : value.get? path = some next) : sizeOf next < sizeOf value := by
  unfold get? at h
  cases hs : steps path with
  | nil => exact absurd hs (Text.pieces_ne_nil _ _)
  | cons step rest =>
    rw [hs] at h
    obtain ⟨mid, hmid, hrest⟩ := Option.bind_eq_some_iff.1 h
    have := sizeOf_lt_of_step? hmid
    have := sizeOf_le_of_follow? hrest
    omega

/-- The body of a tagged value is smaller than the value. -/
theorem sizeOf_lt_of_tagged? {value body : Json} {tag : String}
    (h : value.tagged? = some (tag, body)) : sizeOf body < sizeOf value := by
  cases value with
  | object fields =>
    cases fields with
    | nil => simp [tagged?] at h
    | cons field rest =>
      simp only [tagged?, Option.some.injEq] at h
      subst h
      simp only [object.sizeOf_spec, List.cons.sizeOf_spec, Prod.mk.sizeOf_spec]
      omega
  | _ => simp [tagged?] at h

end EntSchema.Json
