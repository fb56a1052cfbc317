import EntSchema.Config.Override
import Mathlib.Data.List.Forall2

/-!
# Which rule decides

Rules are tried in their order, and the first one that holds of a column decides. So nothing behind
that rule matters, and nothing in front of it does either: a rule that does not hold can be left out
(`DecidesAt.without`).

Of the rules up to that one, only what they say matters. The conditions of a rule are joined by
"and", so in which order and how often they are written makes no difference (`DecidesAt.reworded`).
-/

namespace EntSchema.Config

open Relational (Column)

variable {rules others kept : List Override} {rule other first : Override} {column : Column}
  {place : Nat}

theorem firstOverride?_eq_none :
    firstOverride? rules column = none ↔ ∀ rule ∈ rules, rule.holds column = false := by
  rw [firstOverride?, List.find?_eq_none]
  simp only [Bool.not_eq_true]

/-- A rule does not hold when one of its conditions does not. -/
theorem Override.holds_eq_false :
    rule.holds column = false ↔ ∃ matcher ∈ rule.matchers, matcher.holds column = false := by
  rw [Override.holds, List.all_eq_false]
  simp only [Bool.not_eq_true]

/-! ## The place of the rule -/

/-- The rule at a place is the first one that holds of a column. -/
structure DecidesAt (rules : List Override) (column : Column) (place : Nat) (rule : Override) :
    Prop where
  found : rules[place]? = some rule
  holds : rule.holds column = true
  first : ∀ earlier ∈ rules.take place, earlier.holds column = false

theorem decidesAt_cons_zero :
    DecidesAt (first :: rules) column 0 rule ↔ first = rule ∧ rule.holds column = true := by
  constructor
  · intro h
    exact ⟨Option.some.inj h.found, h.holds⟩
  · rintro ⟨rfl, hholds⟩
    exact ⟨rfl, hholds, nofun⟩

theorem decidesAt_cons_succ :
    DecidesAt (first :: rules) column (place + 1) rule ↔
      first.holds column = false ∧ DecidesAt rules column place rule := by
  constructor
  · intro h
    obtain ⟨hfirst, hrest⟩ := List.forall_mem_cons.1 h.first
    exact ⟨hfirst, h.found, h.holds, hrest⟩
  · rintro ⟨hfirst, h⟩
    exact ⟨h.found, h.holds, List.forall_mem_cons.2 ⟨hfirst, h.first⟩⟩

theorem not_decidesAt_nil : ¬DecidesAt [] column place rule := by
  intro h
  cases h.found

/-- **The rule that decides is the one that is found.** -/
theorem DecidesAt.firstOverride?_eq (h : DecidesAt rules column place rule) :
    firstOverride? rules column = some rule := by
  induction rules generalizing place with
  | nil => exact absurd h not_decidesAt_nil
  | cons first rest ih =>
    cases place with
    | zero =>
      obtain ⟨rfl, hholds⟩ := decidesAt_cons_zero.1 h
      exact List.find?_cons_of_pos hholds
    | succ place =>
      obtain ⟨hfirst, hrest⟩ := decidesAt_cons_succ.1 h
      rw [firstOverride?, List.find?_cons_of_neg (by rw [hfirst]; decide)]
      exact ih hrest

/-- **Rules in front of the one that decides can be left out.** -/
theorem DecidesAt.without (h : DecidesAt rules column place rule)
    (hkept : kept.Sublist (rules.take place)) :
    DecidesAt (kept ++ rules.drop place) column kept.length rule where
  found := by
    rw [List.getElem?_append_right (Nat.le_refl _), Nat.sub_self, List.getElem?_drop, Nat.add_zero]
    exact h.found
  holds := h.holds
  first := by
    intro earlier hearlier
    rw [List.take_left] at hearlier
    exact h.first earlier (hkept.subset hearlier)

/-! ## Rules in other words -/

/-- Two rules say the same: the conditions of one are those of the other, in some order, and maybe
some of them more than once. What a rule is called does not count. -/
structure SaysSame (rule other : Override) : Prop where
  matchers : ∀ matcher, matcher ∈ other.matchers ↔ matcher ∈ rule.matchers
  template : other.template = rule.template
  imports : other.imports = rule.imports

theorem SaysSame.holds_eq (h : SaysSame rule other) (column : Column) :
    other.holds column = rule.holds column := by
  rw [Bool.eq_iff_iff, Override.holds, Override.holds, List.all_eq_true, List.all_eq_true]
  exact forall_congr' fun matcher => by rw [h.matchers]

/-- **Rules that say the same up to the one that decides have the same one decide.** -/
theorem DecidesAt.reworded (h : DecidesAt rules column place rule)
    (hsame : List.Forall₂ SaysSame (rules.take (place + 1)) (others.take (place + 1))) :
    ∃ other, DecidesAt others column place other ∧ SaysSame rule other := by
  induction place generalizing rules others with
  | zero =>
    cases rules with
    | nil => exact absurd h not_decidesAt_nil
    | cons first rest =>
      obtain ⟨rfl, hholds⟩ := decidesAt_cons_zero.1 h
      cases others with
      | nil => cases hsame
      | cons other more =>
        obtain ⟨hother, -⟩ := List.forall₂_cons.1 hsame
        exact ⟨other, decidesAt_cons_zero.2 ⟨rfl, (hother.holds_eq column).trans hholds⟩, hother⟩
  | succ place ih =>
    cases rules with
    | nil => exact absurd h not_decidesAt_nil
    | cons first rest =>
      obtain ⟨hfirst, hrest⟩ := decidesAt_cons_succ.1 h
      cases others with
      | nil => cases hsame
      | cons other more =>
        obtain ⟨hother, hmore⟩ := List.forall₂_cons.1 hsame
        obtain ⟨found, hfound, hrule⟩ := ih hrest hmore
        exact ⟨found, decidesAt_cons_succ.2 ⟨(hother.holds_eq column).trans hfirst, hfound⟩, hrule⟩

end EntSchema.Config
