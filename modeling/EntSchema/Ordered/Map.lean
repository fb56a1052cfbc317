/-!
# Maps with text keys, in key order

A map is the list of its entries, sorted by key, with one entry per key. `put` keeps it so. Texts
are compared code point by code point, which is the order of their bytes.
-/

namespace EntSchema.Ordered

/-- The entries with one more, in key order. An entry of the same key is replaced. -/
def put {α : Type} (key : String) (value : α) : List (String × α) → List (String × α)
  | [] => [(key, value)]
  | entry :: rest =>
    if key = entry.1 then (key, value) :: rest
    else if key < entry.1 then (key, value) :: entry :: rest
    else entry :: put key value rest

/-- The map of some entries, of which the last one of a key counts. -/
def mapOf {α : Type} (entries : List (String × α)) : List (String × α) :=
  entries.foldl (fun map entry => put entry.1 entry.2 map) []

theorem lookup_cons_eq_ite {α : Type} (key found : String) (held : α)
    (entries : List (String × α)) :
    ((found, held) :: entries).lookup key =
      if key = found then some held else entries.lookup key := by
  rw [List.lookup_cons]
  by_cases h : key = found
  · simp [h]
  · simp [h, beq_eq_false_iff_ne.2 h]

/-- Putting an entry is seen at its key and at no other. The entries need not be in order. -/
theorem lookup_put {α : Type} (key other : String) (value : α) (entries : List (String × α)) :
    (put key value entries).lookup other =
      if other = key then some value else entries.lookup other := by
  induction entries with
  | nil => exact lookup_cons_eq_ite other key value []
  | cons entry rest ih =>
    obtain ⟨found, held⟩ := entry
    rw [put]
    by_cases hfound : key = found
    · subst hfound
      rw [if_pos rfl, lookup_cons_eq_ite, lookup_cons_eq_ite]
      by_cases h : other = key
      · rw [if_pos h, if_pos h]
      · rw [if_neg h, if_neg h, if_neg h]
    · rw [if_neg hfound]
      by_cases hless : key < found
      · rw [if_pos hless, lookup_cons_eq_ite]
      · rw [if_neg hless, lookup_cons_eq_ite, lookup_cons_eq_ite, ih]
        by_cases h : other = key
        · subst h
          rw [if_neg hfound, if_pos rfl, if_pos rfl]
        · rw [if_neg h, if_neg h]

end EntSchema.Ordered
