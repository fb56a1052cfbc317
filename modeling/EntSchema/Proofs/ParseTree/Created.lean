import EntSchema.Proofs.ParseTree.Beginnings
import EntSchema.Proofs.ParseTree.Stated
import EntSchema.Proofs.Split

/-!
# Each table is created by its own statement

The table at a place among the tables of a script belongs to the table statement at the same place
among the table statements. As far as it is settled, it is what that statement creates from the
tables in front of it — even from these tables as they are at the end of the script, because a
table statement sees only what is settled about them.

## Main results

* `run_created` — after every statement, each table is created by its own statement.
* `tablesOf_created` — the same for the finished tables of an accepted script.
-/

namespace EntSchema.ParseTree

open Relational Fold Split

/-- There are as many tables as table statements, and each table is, as far as it is settled, what
its statement creates from the tables in front of it. -/
structure Created (script : List Json) (tables : List Table) : Prop where
  length : tables.length = (bodies "CreateStmt" script).length
  table : ∀ earlier table later, tables = earlier ++ table :: later →
    ∃ statement created, (bodies "CreateStmt" script)[earlier.length]? = some statement ∧
      createTable earlier statement = .ok created ∧ created.settled = table.settled

variable {script : List Json} {tables next : List Table} {statement : Json}

/-- Only what is settled about the tables matters. -/
theorem Created.congr (h : Created script tables)
    (hsettled : tables.map (·.settled) = next.map (·.settled)) : Created script next where
  length := by
    have hlength := congrArg List.length hsettled
    rw [List.length_map, List.length_map] at hlength
    rw [← hlength, h.length]
  table := by
    rintro earlier table later rfl
    rw [List.map_append, List.map_cons] at hsettled
    obtain ⟨front, rest, rfl, hfront, hrest⟩ := List.map_eq_append_iff.1 hsettled
    obtain ⟨found, back, rfl, hfound, -⟩ := List.map_eq_cons_iff.1 hrest
    obtain ⟨own, created, hown, hcreated, hsame⟩ := h.table front found back rfl
    have hlength := congrArg List.length hfront
    rw [List.length_map, List.length_map] at hlength
    rw [hlength] at hown
    rw [createTable_congr hfront] at hcreated
    exact ⟨own, created, hown, hcreated, hsame.trans hfound⟩

theorem Created.step (h : Created script tables) (hstep : StatementStep tables statement next) :
    Created (script ++ [statement]) next := by
  have hother : body? "CreateStmt" statement = none → Created (script ++ [statement]) tables := by
    intro hnone
    have hbodies : bodies "CreateStmt" (script ++ [statement]) = bodies "CreateStmt" script := by
      simp [hnone]
    exact ⟨by rw [hbodies, h.length], by rw [hbodies]; exact h.table⟩
  cases hstep with
  | @createTable body table htag htable =>
    have hbodies : bodies "CreateStmt" (script ++ [statement]) =
        bodies "CreateStmt" script ++ [body] := by
      simp [body?_eq_some.2 htag]
    refine ⟨by simp [hbodies, h.length], ?_⟩
    intro earlier found later hsplit
    rw [hbodies]
    rcases append_singleton_eq_split.1 hsplit with ⟨rfl, rfl, -⟩ | ⟨rest, hrest, -⟩
    · refine ⟨body, table, ?_, htable, rfl⟩
      rw [h.length, getElem?_split_self]
    · obtain ⟨own, created, hown, hcreated⟩ := h.table earlier found rest hrest
      refine ⟨own, created, ?_, hcreated⟩
      obtain ⟨hlt, -⟩ := List.getElem?_eq_some_iff.1 hown
      rw [List.getElem?_append_left hlt, hown]
  | createIndex htag hrelation hsplit hbefore hname hnamed hcover =>
    refine (hother (body?_of_ne htag (by decide))).congr ?_
    rw [hsplit, Table.map_settled_of_split (coverColumns_settled hcover)]
  | skipped htable hindex => exact hother (body?_eq_none htable)

/-- **Each table is created by its own statement**, after every statement of a run. -/
theorem run_created (h : script.foldlM applyStatement [] = .ok tables) :
    Created script tables := by
  refine foldlM_history Created ⟨rfl, ?_⟩ ?_ h
  · intro earlier table later hnil
    simp at hnil
  · intro past tables statement next hpast hnext
    exact hpast.step (applyStatement_eq_ok.1 hnext)

theorem tablesOf_created {tree : Json} (h : tablesOf tree = .ok tables) :
    ∃ script, statements tree = .ok script ∧ Created script tables := by
  obtain ⟨script, left, hscript, hrun, rfl⟩ := tablesOf_eq_ok.1 h
  exact ⟨script, hscript, (run_created hrun).congr (settled_finished left).symm⟩

end EntSchema.ParseTree
