import EntSchema.Json.Path
import EntSchema.Ordered.Map
import EntSchema.Proofs.Text.Pieces
import Mathlib.Data.List.Forall2

/-!
# Trails through a value

A path is a text. What it stands for is a trail, which crosses one link after the other: a key of an
object, or a position in an array. Each step of a path names the link that the value it has come to
allows, so the same step is a key in one value and a position in another. The empty text is a step
too: a path that is empty, or has a dot at an end, or two dots in a row, crosses empty keys.

A path leads to a value exactly when it spells a trail to it that has no dot in a key
(`get?_eq_some_iff`). A field whose key holds a dot is on the way of no path, whether the path leads
somewhere or not: a value without all these fields looks the same (`get?_undotted`).

## Main results

* `step?_eq_some_iff`, `follow?_eq_some_iff`, `get?_eq_some_iff` — one step, some steps and a path
  as trails.
* `step?_undotted`, `follow?_undotted`, `get?_undotted` — what one step, some steps and a path do
  not see.
-/

namespace EntSchema.Json

/-! ## Links and trails -/

/-- What one step of a path crosses. -/
inductive Link where
  | key (name : String)
  | position (index : Nat)
  deriving DecidableEq, Repr

/-- A link leads from a value to a part of it. -/
inductive Link.Leads : Link → Json → Json → Prop
  | key {fields : List (String × Json)} {name : String} {part : Json}
      (h : fields.lookup name = some part) : Leads (.key name) (.object fields) part
  | position {items : List Json} {index : Nat} {part : Json}
      (h : items[index]? = some part) : Leads (.position index) (.array items) part

/-- A step that names a link: a key is its own name, and a position has all its numerals. -/
inductive Link.NamedBy : Link → List Char → Prop
  | key (name : String) : NamedBy (.key name) name.toList
  | position {index : Nat} {step : List Char} (h : Text.index? step = some index) :
      NamedBy (.position index) step

/-- Links that lead from a value to a part of it, one after the other. -/
inductive Trail : Json → List Link → Json → Prop
  | here (value : Json) : Trail value [] value
  | next {value part last : Json} {link : Link} {links : List Link}
      (hlink : link.Leads value part) (hrest : Trail part links last) :
      Trail value (link :: links) last

/-- A path spells some links, at least one, when it is their names with dots between them. -/
def Spells (path : String) (links : List Link) : Prop :=
  links ≠ [] ∧
    ∃ names, List.Forall₂ Link.NamedBy links names ∧ ['.'].intercalate names = path.toList

variable {value part last : Json} {step : List Char} {path : String}

/-! ## Steps as links -/

theorem step?_eq_some_iff :
    step? step value = some part ↔ ∃ link : Link, link.NamedBy step ∧ link.Leads value part := by
  constructor
  · intro h
    cases value with
    | object fields =>
      have hnamed := Link.NamedBy.key (String.ofList step)
      rw [String.toList_ofList] at hnamed
      exact ⟨_, hnamed, .key h⟩
    | array items =>
      obtain ⟨index, hindex, hitem⟩ := Option.bind_eq_some_iff.1 h
      exact ⟨_, .position hindex, .position hitem⟩
    | null | bool | number | text => cases h
  · rintro ⟨link, hnamed, hleads⟩
    cases hleads with
    | key h =>
      cases hnamed
      rwa [step?, String.ofList_toList]
    | position h =>
      cases hnamed with
      | position hindex => rwa [step?, hindex]

theorem follow?_eq_some_iff {names : List (List Char)} :
    follow? names value = some last ↔
      ∃ links, List.Forall₂ Link.NamedBy links names ∧ Trail value links last := by
  induction names generalizing value with
  | nil =>
    constructor
    · intro h
      cases h
      exact ⟨[], .nil, .here _⟩
    · rintro ⟨links, hnamed, htrail⟩
      cases hnamed
      cases htrail
      rfl
  | cons name names ih =>
    rw [follow?, Option.bind_eq_some_iff]
    constructor
    · rintro ⟨part, hstep, hrest⟩
      obtain ⟨link, hname, hlink⟩ := step?_eq_some_iff.1 hstep
      obtain ⟨links, hnames, hlinks⟩ := ih.1 hrest
      exact ⟨link :: links, .cons hname hnames, .next hlink hlinks⟩
    · rintro ⟨links, hnamed, htrail⟩
      cases hnamed with
      | cons hname hnames =>
        cases htrail with
        | next hlink hlinks =>
          exact ⟨_, step?_eq_some_iff.2 ⟨_, hname, hlink⟩, ih.2 ⟨_, hnames, hlinks⟩⟩

/-! ## Paths as trails -/

theorem dot_not_mem_of_index? {index : Nat} (h : Text.index? step = some index) : '.' ∉ step := by
  obtain ⟨hnatural, -⟩ := Option.filter_eq_some_iff.1 h
  have hdigits : '.' ∉ Text.dropPlus step := by
    rw [Text.natural?] at hnatural
    split at hnatural
    · cases hnatural
    · exact Text.not_mem_of_digitsAfter rfl hnatural
  cases step with
  | nil => exact hdigits
  | cons c rest =>
    unfold Text.dropPlus at hdigits
    split at hdigits
    · rename_i heq
      cases heq
      exact List.not_mem_cons_of_ne_of_not_mem (by decide) hdigits
    · exact hdigits

/-- Only the name of a key can hold a dot. -/
theorem dot_not_mem_names_iff {links : List Link} {names : List (List Char)}
    (h : List.Forall₂ Link.NamedBy links names) :
    (∀ name ∈ names, '.' ∉ name) ↔ ∀ name, Link.key name ∈ links → '.' ∉ name.toList := by
  induction h with
  | nil => simp
  | cons hname _ ih =>
    rw [List.forall_mem_cons, ih]
    cases hname with
    | key name => simp
    | position hindex => simp [dot_not_mem_of_index? hindex]

theorem steps_eq_iff {names : List (List Char)} :
    steps path = names ↔
      names ≠ [] ∧ (∀ name ∈ names, '.' ∉ name) ∧ ['.'].intercalate names = path.toList :=
  Text.pieces_eq_iff

/-- **A path as a trail**: it leads to a value exactly when it spells a trail there without a dot in
any key. -/
theorem get?_eq_some_iff :
    value.get? path = some last ↔
      ∃ links, Trail value links last ∧ Spells path links ∧
        ∀ name, Link.key name ∈ links → '.' ∉ name.toList := by
  rw [get?, follow?_eq_some_iff]
  constructor
  · rintro ⟨links, hnamed, htrail⟩
    obtain ⟨hne, hdots, hjoined⟩ := steps_eq_iff.1 (Eq.refl (steps path))
    refine ⟨links, htrail, ⟨?_, _, hnamed, hjoined⟩, (dot_not_mem_names_iff hnamed).1 hdots⟩
    rintro rfl
    exact hne (List.forall₂_nil_left_iff.1 hnamed)
  · rintro ⟨links, htrail, ⟨hne, names, hnamed, hjoined⟩, hkeys⟩
    have hnames : names ≠ [] := by
      rintro rfl
      exact hne (List.forall₂_nil_right_iff.1 hnamed)
    have hsteps : steps path = names :=
      steps_eq_iff.2 ⟨hnames, (dot_not_mem_names_iff hnamed).2 hkeys, hjoined⟩
    rw [hsteps]
    exact ⟨links, hnamed, htrail⟩

/-! ## Fields that no path crosses -/

mutual

/-- A value without the fields whose key holds a dot, at any depth. -/
def undotted : Json → Json
  | array items => array (undottedItems items)
  | object fields => object (undottedFields fields)
  | other => other

/-- The items of an array, each without such fields. -/
def undottedItems : List Json → List Json
  | [] => []
  | item :: rest => undotted item :: undottedItems rest

/-- The other fields of an object, each value without such fields. -/
def undottedFields : List (String × Json) → List (String × Json)
  | [] => []
  | (key, value) :: rest =>
    if '.' ∈ key.toList then undottedFields rest
    else (key, undotted value) :: undottedFields rest

end

theorem getElem?_undottedItems (items : List Json) (index : Nat) :
    (undottedItems items)[index]? = items[index]?.map undotted := by
  induction items generalizing index with
  | nil => rfl
  | cons item rest ih =>
    cases index with
    | zero => rfl
    | succ index => exact ih index

theorem lookup_undottedFields {name : String} (h : '.' ∉ name.toList)
    (fields : List (String × Json)) :
    (undottedFields fields).lookup name = (fields.lookup name).map undotted := by
  induction fields with
  | nil => rfl
  | cons field rest ih =>
    obtain ⟨key, value⟩ := field
    rw [undottedFields, Ordered.lookup_cons_eq_ite]
    by_cases hkey : name = key
    · rw [if_neg (hkey ▸ h), Ordered.lookup_cons_eq_ite, if_pos hkey, if_pos hkey]
      rfl
    · rw [if_neg hkey]
      split
      · exact ih
      · rw [Ordered.lookup_cons_eq_ite, if_neg hkey]
        exact ih

theorem step?_undotted (h : '.' ∉ step) (value : Json) :
    step? step value.undotted = (step? step value).map undotted := by
  cases value with
  | object fields =>
    refine lookup_undottedFields ?_ fields
    rwa [String.toList_ofList]
  | array items =>
    rw [undotted, step?, step?]
    cases Text.index? step with
    | none => rfl
    | some index => exact getElem?_undottedItems items index
  | null | bool | number | text => rfl

theorem follow?_undotted {names : List (List Char)} (h : ∀ name ∈ names, '.' ∉ name)
    (value : Json) : follow? names value.undotted = (follow? names value).map undotted := by
  induction names generalizing value with
  | nil => rfl
  | cons name names ih =>
    obtain ⟨hname, hnames⟩ := List.forall_mem_cons.1 h
    rw [follow?, follow?, step?_undotted hname]
    cases step? name value with
    | none => rfl
    | some part => exact ih hnames part

/-- **No path crosses a key that holds a dot**: without the fields that have such keys a path leads
to the same value, less its own such fields, and it leads nowhere if it did so before. -/
theorem get?_undotted (value : Json) (path : String) :
    value.undotted.get? path = (value.get? path).map undotted :=
  follow?_undotted (fun _ => dot_not_mem_of_mem_steps) value

end EntSchema.Json
