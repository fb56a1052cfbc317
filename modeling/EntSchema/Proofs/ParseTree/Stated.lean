import EntSchema.Proofs.ParseTree.Steps

/-!
# What a script states

The declarations of a script as they are written, without any walk: the bodies of its statements
and elements by their tag, the definition that declares a column, the constraints of one kind,
and the index entries that constraints and index statements ask for. Of several declarations of
one name the first counts.

These are all selections of a list. So each of them falls apart over `++`, and for a single node
it asks for the node's tag: one lemma of either kind for each selection.
-/

namespace EntSchema.ParseTree

open Relational

/-! ## Bodies by their tag -/

/-- The body of a node that has a tag. -/
def body? (tag : String) (node : Json) : Option Json :=
  node.tagged?.bind fun tagged => if tagged.1 = tag then some tagged.2 else none

/-- The bodies of the nodes that have a tag. -/
def bodies (tag : String) (nodes : List Json) : List Json :=
  nodes.filterMap (body? tag)

theorem body?_eq_some {tag : String} {node body : Json} :
    body? tag node = some body ↔ node.tagged? = some (tag, body) := by
  rw [body?, Option.bind_eq_some_iff]
  constructor
  · rintro ⟨⟨found, content⟩, htag, h⟩
    by_cases hfound : found = tag
    · rw [if_pos hfound] at h
      cases h
      rw [htag, hfound]
    · rw [if_neg hfound] at h
      cases h
  · intro htag
    exact ⟨(tag, body), htag, if_pos rfl⟩

theorem body?_of_ne {tag other : String} {node body : Json}
    (htag : node.tagged? = some (other, body)) (hne : other ≠ tag) : body? tag node = none := by
  simp [body?, htag, hne]

theorem body?_eq_none {tag : String} {node : Json}
    (h : ∀ body, node.tagged? ≠ some (tag, body)) : body? tag node = none := by
  cases hbody : body? tag node with
  | none => rfl
  | some body => exact absurd (body?_eq_some.1 hbody) (h body)

@[simp] theorem bodies_append (tag : String) (first second : List Json) :
    bodies tag (first ++ second) = bodies tag first ++ bodies tag second :=
  List.filterMap_append

@[simp] theorem bodies_singleton (tag : String) (node : Json) :
    bodies tag [node] = (body? tag node).toList := by
  cases hbody : body? tag node with
  | none => simp [bodies, hbody]
  | some body => simp [bodies, hbody]

private theorem filter_toList {α : Type} (keep : α → Bool) (value? : Option α) :
    value?.toList.filter keep = (value?.filter keep).toList := by
  cases value? with
  | none => rfl
  | some value => cases hkeep : keep value <;> simp [Option.filter_some, hkeep]

/-! ## Elements of a table statement -/

/-- The names of the columns that some elements define. -/
def definedNames (elements : List Json) : List String :=
  (bodies "ColumnDef" elements).filterMap (·.nonEmptyText? "colname")

/-- The definition of the first column of a name. -/
def definition? (name : String) (elements : List Json) : Option Json :=
  (bodies "ColumnDef" elements).find? (·.nonEmptyText? "colname" = some name)

/-- The kinds of the constraints at a column's own definition. -/
def ownKinds (definition : Json) : List ConstraintKind :=
  (itemsAt definition "constraints").filterMap fun element =>
    (element.get? "Constraint").bind ConstraintKind.ofNode?

/-- The constraints of one kind that stand beside the columns. -/
def constraintsOf (kind : ConstraintKind) (elements : List Json) : List Json :=
  (bodies "Constraint" elements).filter (ConstraintKind.ofNode? · = some kind)

/-- The index entries that the unique constraints over several columns ask for. -/
def constraintIndexes (elements : List Json) : List Index :=
  (constraintsOf .unique elements).filterMap fun constraint =>
    severalIndex? (stringsAt constraint "keys") true

/-- Some primary key beside the columns lists the name. -/
def InPrimaryKey (elements : List Json) (name : String) : Prop :=
  ∃ constraint ∈ constraintsOf .primaryKey elements, name ∈ stringsAt constraint "keys"

/-- Some unique constraint beside the columns has the name as its only key. -/
def UniqueAlone (elements : List Json) (name : String) : Prop :=
  ∃ constraint ∈ constraintsOf .unique elements, stringsAt constraint "keys" = [name]

theorem definition?_eq_none_iff {name : String} {elements : List Json} :
    definition? name elements = none ↔ name ∉ definedNames elements := by
  simp [definition?, definedNames]

@[simp] theorem definedNames_append (first second : List Json) :
    definedNames (first ++ second) = definedNames first ++ definedNames second := by
  simp [definedNames]

theorem definedNames_singleton (element : Json) :
    definedNames [element] =
      ((body? "ColumnDef" element).bind (·.nonEmptyText? "colname")).toList := by
  rw [definedNames, bodies_singleton]
  cases body? "ColumnDef" element with
  | none => rfl
  | some body => cases hname : body.nonEmptyText? "colname" <;> simp [hname]

@[simp] theorem definition?_append (name : String) (first second : List Json) :
    definition? name (first ++ second) = (definition? name first).or (definition? name second) := by
  simp [definition?]

theorem definition?_singleton (name : String) (element : Json) :
    definition? name [element] =
      (body? "ColumnDef" element).filter (·.nonEmptyText? "colname" = some name) := by
  rw [definition?, bodies_singleton, ← List.head?_filter, filter_toList, Option.head?_toList]

@[simp] theorem constraintsOf_append (kind : ConstraintKind) (first second : List Json) :
    constraintsOf kind (first ++ second) =
      constraintsOf kind first ++ constraintsOf kind second := by
  simp [constraintsOf]

theorem constraintsOf_singleton (kind : ConstraintKind) (element : Json) :
    constraintsOf kind [element] =
      ((body? "Constraint" element).filter (ConstraintKind.ofNode? · = some kind)).toList := by
  rw [constraintsOf, bodies_singleton, filter_toList]

@[simp] theorem constraintIndexes_append (first second : List Json) :
    constraintIndexes (first ++ second) = constraintIndexes first ++ constraintIndexes second := by
  simp [constraintIndexes]

@[simp] theorem inPrimaryKey_append (first second : List Json) (name : String) :
    InPrimaryKey (first ++ second) name ↔ InPrimaryKey first name ∨ InPrimaryKey second name := by
  simp only [InPrimaryKey, constraintsOf_append, List.mem_append, or_and_right, exists_or]

@[simp] theorem uniqueAlone_append (first second : List Json) (name : String) :
    UniqueAlone (first ++ second) name ↔ UniqueAlone first name ∨ UniqueAlone second name := by
  simp only [UniqueAlone, constraintsOf_append, List.mem_append, or_and_right, exists_or]

/-! ### One constraint -/

section Constraint

variable {element body : Json}

theorem inPrimaryKey_singleton (hbody : body? "Constraint" element = some body) (name : String) :
    InPrimaryKey [element] name ↔
      ConstraintKind.ofNode? body = some .primaryKey ∧ name ∈ stringsAt body "keys" := by
  rw [InPrimaryKey, constraintsOf_singleton, hbody]
  by_cases hkind : ConstraintKind.ofNode? body = some .primaryKey
  · simp [Option.filter_some, hkind]
  · simp [Option.filter_some, hkind]

theorem uniqueAlone_singleton (hbody : body? "Constraint" element = some body) (name : String) :
    UniqueAlone [element] name ↔
      ConstraintKind.ofNode? body = some .unique ∧ stringsAt body "keys" = [name] := by
  rw [UniqueAlone, constraintsOf_singleton, hbody]
  by_cases hkind : ConstraintKind.ofNode? body = some .unique
  · simp [Option.filter_some, hkind]
  · simp [Option.filter_some, hkind]

theorem constraintIndexes_singleton (hbody : body? "Constraint" element = some body) :
    constraintIndexes [element] =
      if ConstraintKind.ofNode? body = some .unique
        then (severalIndex? (stringsAt body "keys") true).toList else [] := by
  rw [constraintIndexes, constraintsOf_singleton, hbody]
  by_cases hkind : ConstraintKind.ofNode? body = some .unique
  · cases hentry : severalIndex? (stringsAt body "keys") true <;>
      simp [Option.filter_some, hkind, hentry]
  · simp [Option.filter_some, hkind]

/-- An element that is no constraint adds none. -/
theorem constraintsOf_of_none (hbody : body? "Constraint" element = none)
    (kind : ConstraintKind) : constraintsOf kind [element] = [] := by
  rw [constraintsOf_singleton, hbody]
  rfl

end Constraint

/-! ## Statements of a script -/

/-- The names of the tables that the table statements create. -/
def createdNames (script : List Json) : List String :=
  (bodies "CreateStmt" script).filterMap relation?

/-- The statements that create a table of a name. -/
def creating (name : String) (script : List Json) : List Json :=
  (bodies "CreateStmt" script).filter (relation? · = some name)

/-- The statements about an index of the table of a name. -/
def indexing (name : String) (script : List Json) : List Json :=
  (bodies "IndexStmt" script).filter (relation? · = some name)

/-- The index entries that the index statements over several columns ask for. -/
def statementIndexes (statements : List Json) : List Index :=
  statements.filterMap fun statement =>
    severalIndex? (indexColumns statement) (isUniqueIndex statement)

/-- Some unique index statement names the column and no other. -/
def IndexedAlone (statements : List Json) (name : String) : Prop :=
  ∃ statement ∈ statements, isUniqueIndex statement = true ∧ indexColumns statement = [name]

theorem creating_eq_nil_iff {name : String} {script : List Json} :
    creating name script = [] ↔ name ∉ createdNames script := by
  simp [creating, createdNames]

@[simp] theorem creating_append (name : String) (first second : List Json) :
    creating name (first ++ second) = creating name first ++ creating name second := by
  simp [creating]

theorem creating_singleton (name : String) (statement : Json) :
    creating name [statement] =
      ((body? "CreateStmt" statement).filter (relation? · = some name)).toList := by
  rw [creating, bodies_singleton, filter_toList]

@[simp] theorem indexing_append (name : String) (first second : List Json) :
    indexing name (first ++ second) = indexing name first ++ indexing name second := by
  simp [indexing]

theorem indexing_singleton (name : String) (statement : Json) :
    indexing name [statement] =
      ((body? "IndexStmt" statement).filter (relation? · = some name)).toList := by
  rw [indexing, bodies_singleton, filter_toList]

@[simp] theorem statementIndexes_append (first second : List Json) :
    statementIndexes (first ++ second) = statementIndexes first ++ statementIndexes second :=
  List.filterMap_append

@[simp] theorem indexedAlone_append (first second : List Json) (name : String) :
    IndexedAlone (first ++ second) name ↔ IndexedAlone first name ∨ IndexedAlone second name := by
  simp only [IndexedAlone, List.mem_append, or_and_right, exists_or]

end EntSchema.ParseTree
