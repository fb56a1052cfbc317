/-!
# Sets of texts, in order

A set is the sorted list of its members, each once. `insert` keeps it so. Texts are compared code
point by code point, which is the order of their bytes.
-/

namespace EntSchema.Ordered

/-- The set with one more member. -/
def insert (member : String) : List String → List String
  | [] => [member]
  | first :: rest =>
    if member = first then first :: rest
    else if member < first then member :: first :: rest
    else first :: insert member rest

/-- The set with some more members. -/
def insertAll (set members : List String) : List String :=
  members.foldl (fun set member => insert member set) set

/-- The set of some members. -/
def setOf (members : List String) : List String :=
  insertAll [] members

@[simp] theorem mem_insert {x member : String} {set : List String} :
    x ∈ insert member set ↔ x = member ∨ x ∈ set := by
  induction set with
  | nil => simp [insert]
  | cons first rest ih =>
    rw [insert]
    split
    · subst_vars; simp
    · split
      · simp
      · simp only [List.mem_cons, ih, or_left_comm]

@[simp] theorem mem_insertAll {x : String} {set members : List String} :
    x ∈ insertAll set members ↔ x ∈ set ∨ x ∈ members := by
  unfold insertAll
  induction members generalizing set with
  | nil => simp
  | cons member rest ih =>
    simp only [List.foldl_cons, ih, mem_insert, List.mem_cons, or_assoc, or_left_comm]

end EntSchema.Ordered
