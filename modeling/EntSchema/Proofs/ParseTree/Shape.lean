import EntSchema.Proofs.ParseTree.Steps

/-!
# What a script may be refused for

The errors fall into two classes. Most of them are about the shape of a node: something is absent,
empty or not supported. The others are about a name, of a table or a column, that is not declared.

`OnlyShape` says of a computation that it is refused, if at all, for a shape. It is closed under all
the ways in which the walk composes its parts, so whatever looks no name up is known at once never
to be refused for one. That is everything about a column and its own constraints, and everything
about reading the statements of a tree.

## Main results

* `OnlyShape.bind`, `OnlyShape.foldlM` — sequences and folds of such computations.
* `OnlyShape.bind_eq_error` — an error about a name comes from behind them.
* `onlyShape_readColumn`, `onlyShape_statements` — the parts of the walk that look no name up.
-/

namespace EntSchema.ParseTree

open Relational Fold

/-! ## Errors about names and errors about shapes -/

/-- The error is about a table or a column that is named and not declared. -/
def ParseError.AboutName : ParseError → Prop
  | unknownTable _ _ => True
  | unknownColumn _ _ _ => True
  | _ => False

section Shape

variable {α β : Type}

/-- A computation that is refused, if at all, for the shape of a node. -/
def OnlyShape (action : Except ParseError α) : Prop :=
  ∀ cause, action = .error cause → ¬cause.AboutName

theorem onlyShape_ok (value : α) : OnlyShape (.ok value) := by
  intro cause h
  cases h

theorem onlyShape_error {cause : ParseError} (h : ¬cause.AboutName) :
    OnlyShape (.error cause : Except ParseError α) := by
  intro other hother
  cases hother
  exact h

theorem OnlyShape.bind {action : Except ParseError α} {next : α → Except ParseError β}
    (h : OnlyShape action) (hnext : ∀ value, OnlyShape (next value)) :
    OnlyShape (action >>= next) := by
  intro cause hcause
  rcases bind_eq_error.1 hcause with haction | ⟨value, -, hvalue⟩
  · exact h cause haction
  · exact hnext value cause hvalue

theorem OnlyShape.foldlM {step : β → α → Except ParseError β}
    (hstep : ∀ state element, OnlyShape (step state element)) (start : β) (elements : List α) :
    OnlyShape (elements.foldlM step start) := by
  intro cause hcause
  obtain ⟨before, state, element, -, helement⟩ := foldlM_eq_error.1 hcause
  exact hstep state element cause helement

/-- An error about a name comes from behind the parts that are only about shapes. -/
theorem OnlyShape.bind_eq_error {action : Except ParseError α}
    {next : α → Except ParseError β} {cause : ParseError} (h : OnlyShape action)
    (hcause : cause.AboutName) :
    (action >>= next) = .error cause ↔
      ∃ value, action = .ok value ∧ next value = .error cause := by
  rw [Fold.bind_eq_error]
  constructor
  · rintro (haction | hvalue)
    · exact absurd hcause (h cause haction)
    · exact hvalue
  · intro hvalue
    exact .inr hvalue

end Shape

/-! ## Parts of the walk that look no name up -/

section Parts

variable {tables : List Table} {current : Table} {node : Json} {path : String}

theorem onlyShape_require : OnlyShape (require node path) := by
  rw [require]
  split
  · exact onlyShape_ok _
  · exact onlyShape_error id

theorem onlyShape_requireText : OnlyShape (requireText node path) := by
  rw [requireText]
  split
  · exact onlyShape_ok _
  · exact onlyShape_error id

theorem onlyShape_requireTagged : OnlyShape (requireTagged node path) := by
  rw [requireTagged]
  split
  · exact onlyShape_ok _
  · exact onlyShape_error id

theorem onlyShape_requireLastName : OnlyShape (requireLastName node path) := by
  rw [requireLastName]
  split
  · exact onlyShape_ok _
  · exact onlyShape_error id

theorem onlyShape_resolveKeyword (body : Json) : OnlyShape (resolveKeyword body) := by
  unfold resolveKeyword
  refine onlyShape_require.bind fun code => ?_
  split
  · exact onlyShape_error id
  · exact onlyShape_ok _

/-- A default expression is refused for its shape, at whatever depth of casts. -/
theorem onlyShape_resolveDefault (tag : String) (body : Json) :
    OnlyShape (resolveDefault tag body) := by
  fun_induction resolveDefault tag body with
  | case1 body => exact onlyShape_requireTagged.bind fun _ => onlyShape_ok _
  | case2 body => exact onlyShape_requireLastName.bind fun _ => onlyShape_ok _
  | case3 => exact onlyShape_error id
  | case4 => exact onlyShape_error id
  | case5 body _ _ arg _ innerTag inner _ ih =>
    refine ih.bind fun value => onlyShape_require.bind fun type => ?_
    exact onlyShape_requireLastName.bind fun _ => onlyShape_ok _
  | case6 body => exact onlyShape_resolveKeyword body
  | case7 => exact onlyShape_error id

theorem onlyShape_foreignKeyTarget (constraint : Json) :
    OnlyShape (foreignKeyTarget tables current constraint) := by
  unfold foreignKeyTarget
  refine onlyShape_requireText.bind fun table => ?_
  split
  · split
    · exact onlyShape_ok _
    · exact onlyShape_error id
  · split
    · exact onlyShape_ok _
    · exact onlyShape_ok _

theorem onlyShape_applyColumnConstraint (column : Column) (element : Json) :
    OnlyShape (applyColumnConstraint tables current column element) := by
  unfold applyColumnConstraint
  refine onlyShape_require.bind fun constraint => ?_
  split
  · exact onlyShape_ok _
  · exact onlyShape_ok _
  · refine onlyShape_requireTagged.bind fun tagged => ?_
    exact (onlyShape_resolveDefault _ _).bind fun _ => onlyShape_ok _
  · exact onlyShape_ok _
  · exact onlyShape_ok _
  · exact (onlyShape_foreignKeyTarget _).bind fun _ => onlyShape_ok _

/-- **The definition of a column looks no name up.** -/
theorem onlyShape_readColumn (definition : Json) :
    OnlyShape (readColumn tables current definition) := by
  unfold readColumn
  refine onlyShape_requireText.bind fun name => onlyShape_require.bind fun node => ?_
  refine onlyShape_requireLastName.bind fun type => ?_
  exact .foldlM onlyShape_applyColumnConstraint _ _

theorem onlyShape_statements (tree : Json) : OnlyShape (statements tree) := by
  unfold statements
  split
  · rename_i elements
    induction elements with
    | nil => exact onlyShape_ok _
    | cons element rest ih =>
      rw [List.mapM_cons]
      exact onlyShape_require.bind fun _ => ih.bind fun _ => onlyShape_ok _
  · exact onlyShape_error id

end Parts

end EntSchema.ParseTree
