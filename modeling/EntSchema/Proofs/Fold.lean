/-!
# Computations and folds that may stop

Everything that reads a script either succeeds or stops with an error, and a script is read by
folds of such steps. A successful fold is a chain of successful steps, so what holds after it is
shown for one step: `foldlM_history` carries a property of the elements processed so far and the
state they led to, and `foldlM_invariant` a property of the state alone. `foldlM_at_eq_ok` stops a
fold at one of its elements, and `foldlM_image` runs it over images of its states. A fold that
fails does so at one element, behind a chain of successful steps: `foldlM_eq_error`. A traversal,
whose steps do not depend on each other, fails at the first element that does: `mapM_eq_error`.
-/

namespace EntSchema.Fold

variable {ε α β : Type}

/-- A sequence succeeds exactly when both of its parts do. -/
theorem bind_eq_ok {action : Except ε α} {next : α → Except ε β} {result : β} :
    (action >>= next) = .ok result ↔ ∃ value, action = .ok value ∧ next value = .ok result := by
  cases action with
  | error cause => simp [bind, Except.bind]
  | ok value => simp [bind, Except.bind]

/-- A sequence fails exactly when its first part does, or when its second part does after it. -/
theorem bind_eq_error {action : Except ε α} {next : α → Except ε β} {cause : ε} :
    (action >>= next) = .error cause ↔
      action = .error cause ∨ ∃ value, action = .ok value ∧ next value = .error cause := by
  cases action with
  | error other => simp [bind, Except.bind]
  | ok value => simp [bind, Except.bind]

theorem pure_eq_ok {value result : α} :
    (pure value : Except ε α) = .ok result ↔ value = result := by
  simp [pure, Except.pure]

theorem exists_ok_iff {action : Except ε α} :
    (∃ value, action = .ok value) ↔ ∀ cause, action ≠ .error cause := by
  cases action <;> simp

theorem map_eq_ok {f : α → β} {action : Except ε α} {result : β} :
    f <$> action = .ok result ↔ ∃ value, action = .ok value ∧ f value = result := by
  cases action with
  | error cause => simp [Functor.map, Except.map]
  | ok value => simp [Functor.map, Except.map]

theorem map_eq_error {f : α → β} {action : Except ε α} {cause : ε} :
    f <$> action = .error cause ↔ action = .error cause := by
  cases action with
  | error other => simp [Functor.map, Except.map]
  | ok value => simp [Functor.map, Except.map]

/-- A fold that succeeds has states before and after each of its elements. -/
theorem foldlM_at_eq_ok {step : β → α → Except ε β} {start final : β} {earlier later : List α}
    {element : α} :
    (earlier ++ element :: later).foldlM step start = .ok final ↔
      ∃ before after, earlier.foldlM step start = .ok before ∧
        step before element = .ok after ∧ later.foldlM step after = .ok final := by
  rw [List.foldlM_append, bind_eq_ok]
  refine exists_congr fun before => ?_
  rw [List.foldlM_cons, bind_eq_ok]
  constructor
  · rintro ⟨hbefore, after, hafter, hlater⟩
    exact ⟨after, hbefore, hafter, hlater⟩
  · rintro ⟨after, hbefore, hafter, hlater⟩
    exact ⟨hbefore, after, hafter, hlater⟩

/-- A fold comes to an element: none of the elements in front of it is refused, and they lead to a
state. What becomes of the element there is left open. -/
structure ComesTo (step : β → α → Except ε β) (start : β) (elements before : List α) (state : β)
    (element : α) : Prop where
  split : ∃ after, elements = before ++ element :: after
  reached : before.foldlM step start = .ok state

/-- **A fold fails as an element does that it comes to.** -/
theorem foldlM_eq_error {step : β → α → Except ε β} {start : β} {elements : List α} {cause : ε} :
    elements.foldlM step start = .error cause ↔
      ∃ before state element, ComesTo step start elements before state element ∧
        step state element = .error cause := by
  constructor
  · intro h
    induction elements generalizing start with
    | nil => cases h
    | cons first rest ih =>
      rw [List.foldlM_cons, bind_eq_error] at h
      rcases h with hfirst | ⟨next, hnext, hrest⟩
      · exact ⟨[], start, first, ⟨⟨rest, rfl⟩, rfl⟩, hfirst⟩
      · obtain ⟨before, state, element, hcomes, hcause⟩ := ih hrest
        obtain ⟨after, hsplit⟩ := hcomes.split
        refine ⟨first :: before, state, element, ⟨⟨after, ?_⟩, ?_⟩, hcause⟩
        · rw [hsplit, List.cons_append]
        · rw [List.foldlM_cons, hnext]
          exact hcomes.reached
  · rintro ⟨before, state, element, hcomes, hcause⟩
    obtain ⟨after, hsplit⟩ := hcomes.split
    rw [hsplit, List.foldlM_append, hcomes.reached]
    show ((element :: after).foldlM step state) = .error cause
    rw [List.foldlM_cons, hcause]
    rfl

/-- **A fold keeps its history.** The property speaks about the elements that the fold has
processed and about the state that it has reached. -/
theorem foldlM_history {step : β → α → Except ε β} {start : β} (P : List α → β → Prop)
    (hstart : P [] start)
    (hstep : ∀ past state element next,
      P past state → step state element = .ok next → P (past ++ [element]) next)
    {elements : List α} {final : β} (h : elements.foldlM step start = .ok final) :
    P elements final := by
  suffices hall : ∀ rest past state, P past state →
      rest.foldlM step state = .ok final → P (past ++ rest) final by
    exact hall elements [] start hstart h
  intro rest
  induction rest with
  | nil =>
    intro past state hP hrun
    rw [List.foldlM_nil, pure_eq_ok] at hrun
    subst hrun
    rwa [List.append_nil]
  | cons element rest ih =>
    intro past state hP hrun
    rw [List.foldlM_cons, bind_eq_ok] at hrun
    obtain ⟨next, hnext, hrun⟩ := hrun
    have hpast := ih (past ++ [element]) next (hstep past state element next hP hnext) hrun
    rwa [List.append_assoc] at hpast

/-- What every step keeps, a fold keeps. -/
theorem foldlM_invariant {step : β → α → Except ε β} {start : β} (P : β → Prop)
    (hstart : P start)
    (hstep : ∀ state element next, P state → step state element = .ok next → P next)
    {elements : List α} {final : β} (h : elements.foldlM step start = .ok final) : P final :=
  foldlM_history (fun _ state => P state) hstart
    (fun _ state element next hP hnext => hstep state element next hP hnext) h

/-- **A fold may run over images of its states**, when a step from an image leads to the image of
what the step leads to. -/
theorem foldlM_image {γ : Type} {image : β → γ} {step : β → α → Except ε β}
    {step' : γ → α → Except ε γ}
    (hstep : ∀ state element, step' (image state) element = image <$> step state element)
    (start : β) (elements : List α) :
    elements.foldlM step' (image start) = image <$> elements.foldlM step start := by
  induction elements generalizing start with
  | nil => rfl
  | cons element rest ih =>
    rw [List.foldlM_cons, List.foldlM_cons, hstep]
    cases step start element with
    | error cause => rfl
    | ok next => exact ih next

/-! ## Traversals -/

/-- **A traversal succeeds when every step does**, with what the steps find. -/
theorem mapM_eq_ok {f : α → Except ε β} {elements : List α} {results : List β} :
    elements.mapM f = .ok results ↔
      (∀ element ∈ elements, ∃ result, f element = .ok result) ∧
        results = elements.filterMap fun element => (f element).toOption := by
  induction elements generalizing results with
  | nil =>
    rw [List.mapM_nil, pure_eq_ok, List.filterMap_nil, eq_comm]
    exact ⟨fun h => ⟨by simp, h⟩, fun h => h.2⟩
  | cons first rest ih =>
    rw [List.mapM_cons, bind_eq_ok, List.forall_mem_cons, List.filterMap_cons]
    constructor
    · rintro ⟨result, hfirst, hrest⟩
      obtain ⟨later, hlater, hresults⟩ := bind_eq_ok.1 hrest
      obtain ⟨hall, rfl⟩ := ih.1 hlater
      refine ⟨⟨⟨result, hfirst⟩, hall⟩, ?_⟩
      rw [← pure_eq_ok.1 hresults, hfirst]
      rfl
    · rintro ⟨⟨⟨result, hfirst⟩, hall⟩, rfl⟩
      refine ⟨result, hfirst, bind_eq_ok.2 ⟨_, ih.2 ⟨hall, rfl⟩, ?_⟩⟩
      rw [hfirst]
      rfl

/-- **A traversal fails as the first element does that fails.** -/
theorem mapM_eq_error {f : α → Except ε β} {elements : List α} {cause : ε} :
    elements.mapM f = .error cause ↔
      ∃ before element after, elements = before ++ element :: after ∧
        (∀ earlier ∈ before, ∃ result, f earlier = .ok result) ∧ f element = .error cause := by
  induction elements with
  | nil =>
    constructor
    · intro h
      cases h
    · rintro ⟨before, element, after, hsplit, -⟩
      cases before <;> cases hsplit
  | cons first rest ih =>
    rw [List.mapM_cons, bind_eq_error]
    constructor
    · rintro (hfirst | ⟨result, hfirst, hrest⟩)
      · exact ⟨[], first, rest, rfl, by simp, hfirst⟩
      · rcases bind_eq_error.1 hrest with hrest | ⟨later, -, hpure⟩
        · obtain ⟨before, element, after, rfl, hbefore, helement⟩ := ih.1 hrest
          refine ⟨first :: before, element, after, rfl, ?_, helement⟩
          exact List.forall_mem_cons.2 ⟨⟨result, hfirst⟩, hbefore⟩
        · cases hpure
    · rintro ⟨before, element, after, hsplit, hbefore, helement⟩
      cases before with
      | nil =>
        cases hsplit
        exact .inl helement
      | cons earlier before =>
        cases hsplit
        obtain ⟨⟨result, hfirst⟩, hbefore⟩ := List.forall_mem_cons.1 hbefore
        refine .inr ⟨result, hfirst, ?_⟩
        rw [ih.2 ⟨before, element, after, rfl, hbefore, helement⟩]
        rfl

end EntSchema.Fold
