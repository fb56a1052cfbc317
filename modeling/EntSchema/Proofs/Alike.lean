import EntSchema.Proofs.Fold

/-!
# Computations that end alike

Two scripts that differ in one place are compared by running them side by side. Either both runs
succeed, with results that are related, or both fail, with errors that are related. `Alike` says
this of two computations, for a relation of the errors and one of the results.

Equality of both is the strictest case (`alike_eq_iff`). When any two errors are related, what is
left of the errors is that one run is accepted exactly when the other is
(`alike_of_success`).

## Main results

* `alike_swap` — two independent computations in either order.
* `Alike.bind` — sequences end alike when their parts do.
* `Alike.foldlM` — folds over the same elements end alike when every step does.
-/

namespace EntSchema.Fold

variable {ε α β γ δ : Type}

/-- Both computations succeed, with related results, or both fail, with related errors. -/
inductive Alike (E : ε → ε → Prop) (R : α → β → Prop) : Except ε α → Except ε β → Prop
  | ok {left : α} {right : β} (h : R left right) : Alike E R (.ok left) (.ok right)
  | error {left right : ε} (h : E left right) : Alike E R (.error left) (.error right)

section Alike

variable {E : ε → ε → Prop} {R : α → β → Prop} {S : γ → δ → Prop}

theorem alike_eq_iff {action other : Except ε α} : Alike Eq Eq action other ↔ action = other := by
  constructor
  · intro h
    cases h with
    | ok h => rw [h]
    | error h => rw [h]
  · rintro rfl
    cases action with
    | ok value => exact .ok rfl
    | error cause => exact .error rfl

/-- Computations with equal images end alike, with results of one image. -/
theorem alike_of_map_eq {f : α → γ} {action other : Except ε α} (h : f <$> action = f <$> other) :
    Alike Eq (fun left right => f left = f right) action other := by
  cases action with
  | ok left =>
    cases other with
    | ok right => exact .ok (Except.ok.inj h)
    | error cause => cases h
  | error cause =>
    cases other with
    | ok right => cases h
    | error cause' => exact .error (Except.error.inj h)

/-- Two computations end alike, whatever their errors are, when each of them succeeds if the other
does and the results are related. -/
theorem alike_of_success {action : Except ε α} {other : Except ε β}
    (hleft : ∀ left, action = .ok left → ∃ right, other = .ok right ∧ R left right)
    (hright : ∀ right, other = .ok right → ∃ left, action = .ok left) :
    Alike (fun _ _ => True) R action other := by
  cases action with
  | ok left =>
    obtain ⟨right, rfl, h⟩ := hleft left rfl
    exact .ok h
  | error cause =>
    cases other with
    | ok right =>
      obtain ⟨left, hleft⟩ := hright right rfl
      cases hleft
    | error cause' => exact .error trivial

/-- Two steps fail in both orders, when each of them needs something and not both needs are met. -/
theorem alike_of_guards (step step' : α → Except ε α) {need need' : Prop} {R : α → α → Prop}
    (hstep : ∀ state next, step state = .ok next → need)
    (hstep' : ∀ state next, step' state = .ok next → need') (hneeds : ¬(need ∧ need'))
    (start : α) :
    Alike (fun _ _ => True) R (step start >>= step') (step' start >>= step) := by
  apply alike_of_success
  · intro last hlast
    obtain ⟨between, hfirst, hsecond⟩ := bind_eq_ok.1 hlast
    exact absurd ⟨hstep start between hfirst, hstep' between last hsecond⟩ hneeds
  · intro last hlast
    obtain ⟨between, hfirst, hsecond⟩ := bind_eq_ok.1 hlast
    exact absurd ⟨hstep between last hsecond, hstep' start between hfirst⟩ hneeds

/-- Of two computations that do not use each other's result, either may come first. -/
theorem alike_swap (action : Except ε α) (other : Except ε β) (combine : α → β → γ) :
    Alike (fun _ _ => True) Eq (action >>= fun left => combine left <$> other)
      (other >>= fun right => (combine · right) <$> action) := by
  cases action with
  | error cause => cases other <;> exact .error trivial
  | ok left =>
    cases other with
    | error cause => exact .error trivial
    | ok right => exact .ok rfl

namespace Alike

theorem refl {R : α → α → Prop} (hE : ∀ cause, E cause cause) (hR : ∀ value, R value value)
    (action : Except ε α) : Alike E R action action := by
  cases action with
  | ok value => exact .ok (hR value)
  | error cause => exact .error (hE cause)

theorem of_eq {R : α → α → Prop} {action other : Except ε α} (hE : ∀ cause, E cause cause)
    (hR : ∀ value, R value value) (h : action = other) : Alike E R action other := by
  rw [h]
  exact .refl hE hR other

theorem mono {E' : ε → ε → Prop} {R' : α → β → Prop} {action : Except ε α} {other : Except ε β}
    (h : Alike E R action other) (hE : ∀ left right, E left right → E' left right)
    (hR : ∀ left right, R left right → R' left right) : Alike E' R' action other := by
  cases h with
  | ok h => exact .ok (hR _ _ h)
  | error h => exact .error (hE _ _ h)

theorem symm {action : Except ε α} {other : Except ε β} (h : Alike E R action other) :
    Alike (fun left right => E right left) (fun left right => R right left) other action := by
  cases h with
  | ok h => exact .ok h
  | error h => exact .error h

/-- What ends alike with a success, for equal results, is that success. -/
theorem eq_ok {value : α} {other : Except ε α} (h : Alike E Eq (.ok value) other) :
    other = .ok value := by
  cases h with
  | ok h => rw [h]

theorem bind {action : Except ε α} {other : Except ε β} {next : α → Except ε γ}
    {next' : β → Except ε δ} (h : Alike E R action other)
    (hnext : ∀ left right, R left right → Alike E S (next left) (next' right)) :
    Alike E S (action >>= next) (other >>= next') := by
  cases h with
  | ok h => exact hnext _ _ h
  | error h => exact .error h

theorem map {action : Except ε α} {other : Except ε β} {f : α → γ} {f' : β → δ}
    (h : Alike E R action other) (hf : ∀ left right, R left right → S (f left) (f' right)) :
    Alike E S (f <$> action) (f' <$> other) := by
  cases h with
  | ok h => exact .ok (hf _ _ h)
  | error h => exact .error h

/-- **Folds over the same elements end alike** when they start from related states and every step
keeps them related. -/
theorem foldlM {step : α → γ → Except ε α} {step' : β → γ → Except ε β}
    (hstep : ∀ left right element, R left right →
      Alike E R (step left element) (step' right element))
    (elements : List γ) {left : α} {right : β} (h : R left right) :
    Alike E R (elements.foldlM step left) (elements.foldlM step' right) := by
  induction elements generalizing left right with
  | nil => exact .ok h
  | cons element rest ih =>
    rw [List.foldlM_cons, List.foldlM_cons]
    exact (hstep left right element h).bind fun _ _ hnext => ih hnext

end Alike

end Alike

end EntSchema.Fold
