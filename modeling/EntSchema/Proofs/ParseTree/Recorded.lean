import EntSchema.Proofs.ParseTree.Accounting
import EntSchema.Proofs.Relational.Settled

/-!
# Where the foreign keys of a table come from

A column has at most one foreign key, and several constraints may set it: constraints of its own,
and constraints beside the columns that name it. The last one counts. `Recorded` says which one
that is from the elements of the statement alone, without any walk, and it keeps the elements in
front of it: they are what the walk has seen when it applies the constraint, and they decide what
the constraint points at.

Columns are told apart by their places here. Names would not do, because a constraint beside the
columns means the first column of a name, while a later column of that name may have a foreign key
of its own.

## Main results

* `ElementStep.refers`, `ElementStep.not_refers` — one element sets the foreign key of one place,
  or of none.
* `recorded_own` — a column's own foreign key is recorded unless one beside the columns follows.
* `run_recorded` — a recorded constraint is found in the table.
* `run_source` — every foreign key of the table was recorded.
-/

namespace EntSchema.ParseTree

open Relational Fold Split

variable {tables : List Table} {current table changed : Table}

/-! ## Foreign keys among the own constraints of a column -/

/-- The last foreign key among some constraints of a column. -/
def lastReference? (constraints : List Json) : Option Json :=
  ((constraints.filterMap (·.get? "Constraint")).filter
    (ConstraintKind.ofNode? · = some .foreignKey)).getLast?

/-- The last foreign key at a column's own definition. -/
def ownReference? (definition : Json) : Option Json :=
  lastReference? (itemsAt definition "constraints")

theorem lastReference?_snoc {constraints : List Json} {element constraint : Json}
    (hconstraint : element.get? "Constraint" = some constraint) :
    lastReference? (constraints ++ [element]) =
      if ConstraintKind.ofNode? constraint = some .foreignKey then some constraint
      else lastReference? constraints := by
  by_cases hkind : ConstraintKind.ofNode? constraint = some .foreignKey
  · simp [lastReference?, hconstraint, hkind]
  · simp [lastReference?, hconstraint, hkind]

/-- The foreign key of a column that has just been defined is that of its last own constraint. -/
theorem readColumn_foreignKey {definition : Json} {column : Column}
    (h : readColumn tables current definition = .ok column) :
    Option.Rel (fun constraint key => foreignKeyTarget tables current constraint = .ok key)
      (ownReference? definition) column.foreignKey := by
  obtain ⟨name, node, type, -, -, -, hfold⟩ := readColumn_eq_ok.1 h
  refine foldlM_history (fun past column => Option.Rel
    (fun constraint key => foreignKeyTarget tables current constraint = .ok key)
      (lastReference? past) column.foreignKey) .none ?_ hfold
  intro past column element next hpast hnext
  obtain ⟨constraint, hconstraint, hstep⟩ := applyColumnConstraint_eq_ok.1 hnext
  rw [lastReference?_snoc hconstraint]
  cases hstep with
  | foreignKey hkind htarget =>
    rw [if_pos hkind]
    exact .some htarget
  | @default tag body value hkind hexpr hvalue =>
    rw [if_neg (by simp [hkind])]
    cases value.isNull <;> exact hpast
  | ignored hkind | notNull hkind | primaryKey hkind | unique hkind =>
    rw [if_neg (by simp [hkind])]
    exact hpast

/-! ## Foreign keys among the elements of a statement -/

/-- An element sets the foreign key of the column at a place by a constraint: by one of the
column's own when the element defines the column, and else by the constraint that it is. The
elements in front of it say which places there are. -/
inductive Refers (before : List Json) (element : Json) (place : Nat) (constraint : Json) : Prop
  | own {definition : Json} (hbody : body? "ColumnDef" element = some definition)
      (hplace : place = (definedNames before).length)
      (hown : ownReference? definition = some constraint)
  | beside {name : String} (hbody : body? "Constraint" element = some constraint)
      (hkind : ConstraintKind.ofNode? constraint = some .foreignKey)
      (hname : constraint.nonEmptyText? "fk_attrs.0.String.str" = some name)
      (hplace : (definedNames before).idxOf? name = some place)

/-- The constraint is the last to set the foreign key of the column at a place. It stands in the
element between `before` and `after`. -/
structure Recorded (before : List Json) (element : Json) (after : List Json) (place : Nat)
    (constraint : Json) : Prop where
  refers : Refers before element place constraint
  last : ∀ front later back, after = front ++ later :: back →
    ∀ other, ¬Refers (before ++ element :: front) later place other

/-- One more element that does not refer to the place leaves the constraint the last one. -/
theorem Recorded.snoc {before after : List Json} {element later constraint : Json} {place : Nat}
    (h : Recorded before element after place constraint)
    (hlater : ∀ other, ¬Refers (before ++ element :: after) later place other) :
    Recorded before element (after ++ [later]) place constraint where
  refers := h.refers
  last := by
    intro front other back hsplit
    rcases append_singleton_eq_split.1 hsplit with ⟨rfl, rfl, -⟩ | ⟨rest, hafter, -⟩
    · exact hlater
    · exact h.last front other rest hafter

/-- A column's own last foreign key is recorded when no foreign key stands beside the columns behind
it: the columns that follow have places of their own. -/
theorem recorded_own {before after : List Json} {element definition constraint : Json}
    {name : String}
    (hbody : body? "ColumnDef" element = some definition)
    (hname : definition.nonEmptyText? "colname" = some name)
    (hown : ownReference? definition = some constraint)
    (hafter : ∀ later ∈ after,
      (body? "Constraint" later).bind ConstraintKind.ofNode? ≠ some .foreignKey) :
    Recorded before element after (definedNames before).length constraint where
  refers := .own hbody rfl hown
  last := by
    intro front later back hsplit other hrefers
    cases hrefers with
    | own hlater hplace =>
      have hcons : before ++ element :: front = before ++ [element] ++ front := by simp
      have hdefined : definedNames [element] = [name] := by
        simp [definedNames_singleton, hbody, hname]
      rw [hcons, definedNames_append, definedNames_append, hdefined, List.length_append,
        List.length_append, List.length_singleton] at hplace
      omega
    | beside hlater hkind =>
      refine hafter later (by simp [hsplit]) ?_
      rw [hlater]
      exact hkind

section Element

variable {before : List Json} {element : Json} {place : Nat}

/-- **An element that refers sets the foreign key** of its place. -/
theorem ElementStep.refers (h : ElementStep tables table element changed)
    (hnames : table.columnNames = definedNames before) {constraint : Json}
    (hrefers : Refers before element place constraint) :
    ∃ key, foreignKeyTarget tables table constraint = .ok key ∧
      changed.foreignKeyAt? place = some key := by
  have hlength : (definedNames before).length = table.columns.length := by
    rw [← hnames, Table.columnNames, List.length_map]
  cases hrefers with
  | own hbody hplace hown =>
    have htag := body?_eq_some.1 hbody
    cases h with
    | @column body column htag' hcolumn =>
      rw [htag, Option.some.injEq, Prod.mk.injEq] at htag'
      obtain ⟨-, rfl⟩ := htag'
      have hkey := readColumn_foreignKey hcolumn
      rw [hown] at hkey
      rw [hplace, hlength, Table.foreignKeyAt?_addColumn]
      generalize column.foreignKey = found at hkey ⊢
      cases hkey with
      | some htarget => exact ⟨_, htarget, rfl⟩
    | constraint htag' hstep => simp [htag] at htag'
    | ignored hcolumn hconstraint => exact absurd htag (hcolumn _)
  | @beside name hbody hkind hname hplace =>
    have htag := body?_eq_some.1 hbody
    cases h with
    | column htag' hcolumn => simp [htag] at htag'
    | constraint htag' hstep =>
      rw [htag, Option.some.injEq, Prod.mk.injEq] at htag'
      obtain ⟨-, rfl⟩ := htag'
      cases hstep with
      | ignored hkind' => simp [hkind] at hkind'
      | primaryKey hkind' hkeys => simp [hkind] at hkind'
      | unique hkind' hcover => simp [hkind] at hkind'
      | @foreignKey target name' changed hkind' htarget hname' hchange =>
        rw [hname, Option.some.injEq] at hname'
        subst hname'
        obtain ⟨found, column, hfound, -, hkey, -⟩ := Table.foreignKeyAt?_of_changeColumn? hchange
        rw [hnames, hplace, Option.some.injEq] at hfound
        subst hfound
        exact ⟨target, htarget, hkey⟩
    | ignored hcolumn hconstraint => exact absurd htag (hconstraint _)

/-- **An element that does not refer** to a place leaves the foreign key there. -/
theorem ElementStep.not_refers (h : ElementStep tables table element changed)
    (hnames : table.columnNames = definedNames before)
    (hrefers : ∀ constraint, ¬Refers before element place constraint) :
    changed.foreignKeyAt? place = table.foreignKeyAt? place := by
  have hlength : (definedNames before).length = table.columns.length := by
    rw [← hnames, Table.columnNames, List.length_map]
  cases h with
  | @column body column htag hcolumn =>
    by_cases hplace : place = table.columns.length
    · have hkey := readColumn_foreignKey hcolumn
      cases hown : ownReference? body with
      | some constraint =>
        exact absurd (.own (body?_eq_some.2 htag) (hplace.trans hlength.symm) hown)
          (hrefers constraint)
      | none =>
        rw [hown] at hkey
        rw [hplace, Table.foreignKeyAt?_addColumn, Table.foreignKeyAt?,
          List.getElem?_eq_none (Nat.le_refl _)]
        generalize column.foreignKey = found at hkey ⊢
        cases hkey
        rfl
    · exact Table.foreignKeyAt?_addColumn_of_ne hplace column
  | @constraint body changed htag hstep =>
    cases hstep with
    | ignored hkind => rfl
    | primaryKey hkind hkeys =>
      have hkeep : ∀ column : Column, column.markPrimary.foreignKey = column.foreignKey :=
        fun _ => rfl
      refine foldlM_invariant
        (fun next => next.foreignKeyAt? place = table.foreignKeyAt? place) rfl ?_ hkeys
      intro state key next hstate hnext
      rw [Table.foreignKeyAt?_of_keep hkeep (changeColumn_eq_ok.1 hnext), hstate]
    | unique hkind hcover =>
      have hkeep : ∀ column : Column, (column.markUnique true).foreignKey = column.foreignKey :=
        fun _ => rfl
      rcases coverColumns_eq_ok.1 hcover with ⟨-, rfl⟩ | ⟨name, -, hchange⟩ | ⟨-, rfl⟩
      · rfl
      · exact Table.foreignKeyAt?_of_keep hkeep hchange place
      · rfl
    | @foreignKey target name changed hkind htarget hname hchange =>
      obtain ⟨found, column, hfound, -, -, hother⟩ :=
        Table.foreignKeyAt?_of_changeColumn? hchange
      refine hother place ?_
      rintro rfl
      rw [hnames] at hfound
      exact hrefers body (.beside (body?_eq_some.2 htag) hkind hname hfound)
  | ignored hcolumn hconstraint => rfl

end Element

/-! ## Foreign keys of a new table -/

section Statement

variable {name : String} {elements before after : List Json} {element : Json} {place : Nat}

/-- **A recorded constraint is found in the table**, with the target that it had among the elements
in front of it. -/
theorem run_recorded {constraint : Json}
    (h : (before ++ element :: after).foldlM (applyElement tables) { name } = .ok table)
    (hrecorded : Recorded before element after place constraint) :
    ∃ known key, before.foldlM (applyElement tables) { name } = .ok known ∧
      foreignKeyTarget tables known constraint = .ok key ∧
      table.foreignKeyAt? place = some key := by
  obtain ⟨known, next, hknown, hnext, hafter⟩ := foldlM_at_eq_ok.1 h
  obtain ⟨hname, hbuilt⟩ := run_built hknown
  obtain ⟨key, htarget, hkey⟩ :=
    (applyElement_eq_ok.1 hnext).refers hbuilt.stated.columnNames hrecorded.refers
  refine ⟨known, key, hknown, htarget, ?_⟩
  -- No element behind the constraint refers to the place again.
  have hstays := foldlM_history
    (fun past state => Built (before ++ element :: past) state ∧
      ((∀ front later back, past = front ++ later :: back →
        ∀ other, ¬Refers (before ++ element :: front) later place other) →
          state.foreignKeyAt? place = some key)) ?_ ?_ hafter
  · exact hstays.2 hrecorded.last
  · exact ⟨hbuilt.step (applyElement_eq_ok.1 hnext), fun _ => hkey⟩
  · rintro past state later next ⟨hpast, hstate⟩ hnext
    have hstep := applyElement_eq_ok.1 hnext
    have hlater := hpast.step hstep
    rw [List.append_assoc, List.cons_append] at hlater
    refine ⟨hlater, ?_⟩
    intro hlast
    have hnone := hlast past later [] rfl
    rw [hstep.not_refers hpast.stated.columnNames hnone]
    refine hstate ?_
    intro front other back hsplit
    refine hlast front other (back ++ [later]) ?_
    rw [hsplit, List.append_assoc, List.cons_append]

/-- **Every foreign key of a table was recorded** by a constraint of its statement. -/
theorem run_source {key : ForeignKey}
    (h : elements.foldlM (applyElement tables) { name } = .ok table)
    (hkey : table.foreignKeyAt? place = some key) :
    ∃ before element after constraint, elements = before ++ element :: after ∧
      Recorded before element after place constraint := by
  suffices hall : Built elements table ∧ ∀ place key, table.foreignKeyAt? place = some key →
      ∃ before element after constraint, elements = before ++ element :: after ∧
        Recorded before element after place constraint from hall.2 place key hkey
  refine foldlM_history (fun past state => Built past state ∧
    ∀ place key, state.foreignKeyAt? place = some key →
      ∃ before element after constraint, past = before ++ element :: after ∧
        Recorded before element after place constraint) ?_ ?_ h
  · refine ⟨.new name, ?_⟩
    intro place key hkey
    cases hkey
  · rintro past state later next ⟨hpast, hsource⟩ hnext
    have hstep := applyElement_eq_ok.1 hnext
    refine ⟨hpast.step hstep, ?_⟩
    intro place key hkey
    by_cases hrefers : ∃ constraint, Refers past later place constraint
    · obtain ⟨constraint, hrefers⟩ := hrefers
      refine ⟨past, later, [], constraint, rfl, hrefers, ?_⟩
      intro front other back hnil
      simp at hnil
    · have hnone := not_exists.1 hrefers
      rw [hstep.not_refers hpast.stated.columnNames hnone] at hkey
      obtain ⟨before, element, after, constraint, rfl, hrecorded⟩ := hsource place key hkey
      exact ⟨before, element, after ++ [later], constraint, by simp, hrecorded.snoc hnone⟩

end Statement

end EntSchema.ParseTree
