import EntSchema.Proofs.ParseTree.Finished
import EntSchema.Proofs.ParseTree.Nodes

/-!
# Beginnings of a script

A walk stops at the first statement that it cannot apply, so what comes after that statement does
not matter: a refused beginning is refused with the same error, whatever follows. And a statement
that can be applied adds to what is settled and takes nothing back, so the tables of an accepted
beginning are found again at the front of all tables.

Both are about statements. An element of a tree that holds no statement is another matter: all
elements are looked at before the first statement is applied, and such an element anywhere takes
precedence over every error of a statement. So the elements that follow a refused beginning must
hold statements, or they would change its error.

## Main results

* `statements_of_missing` — an element without a statement is reported first of all.
* `run_settled` — what is settled stays in front.
* `tablesOf_beginning` — refused beginnings stay refused, accepted ones are kept.
-/

namespace EntSchema.ParseTree

open Relational Fold

/-! ## Elements and their statements -/

/-- The element of a tree holds a statement. -/
def HoldsStatement (element : Json) : Prop :=
  ∃ statement, element.get? "RawStmt.stmt" = some statement

theorem exists_statements {elements : List Json}
    (h : ∀ element ∈ elements, HoldsStatement element) :
    ∃ script, statements (.array elements) = .ok script := by
  induction elements with
  | nil => exact ⟨[], rfl⟩
  | cons element rest ih =>
    obtain ⟨statement, hstatement⟩ := h element List.mem_cons_self
    obtain ⟨script, hscript⟩ := ih fun other hmem => h other (List.mem_cons_of_mem _ hmem)
    refine ⟨statement :: script, ?_⟩
    rw [statements_cons hstatement, hscript]
    rfl

/-- **An element without a statement is reported first of all**, wherever it stands. -/
theorem statements_of_missing {elements : List Json} {element : Json} (hmem : element ∈ elements)
    (hmissing : ¬HoldsStatement element) :
    statements (.array elements) = .error (.missingField "RawStmt.stmt") := by
  induction elements with
  | nil => cases hmem
  | cons first rest ih =>
    cases hfirst : first.get? "RawStmt.stmt" with
    | none =>
      rw [statements, List.mapM_cons, require, hfirst]
      rfl
    | some statement =>
      have hrest : element ∈ rest := by
        rcases List.mem_cons.1 hmem with rfl | hrest
        · exact absurd ⟨statement, hfirst⟩ hmissing
        · exact hrest
      rw [statements_cons hfirst, ih hrest]
      rfl

/-! ## What is settled stays -/

section Settled

variable {tables next : List Table}

theorem coverColumns_settled {table changed : Table} {columns : List String} {isUnique : Bool}
    {purpose : Purpose} (h : coverColumns table columns isUnique purpose = .ok changed) :
    changed.settled = table.settled := by
  rcases coverColumns_eq_ok.1 h with ⟨-, rfl⟩ | ⟨name, -, hchange⟩ | ⟨-, rfl⟩
  · rfl
  · exact Table.settled_markUnique hchange
  · exact Table.settled_addIndex table _

/-- A statement keeps what is settled, in its place, and may add a table behind it. -/
theorem StatementStep.settled {statement : Json} (h : StatementStep tables statement next) :
    tables.map (·.settled) <+: next.map (·.settled) := by
  cases h with
  | createTable htag htable =>
    rw [List.map_append]
    exact List.prefix_append _ _
  | createIndex htag hrelation hsplit hbefore hname hnamed hcover =>
    refine ⟨[], ?_⟩
    rw [hsplit, List.append_nil, Table.map_settled_of_split (coverColumns_settled hcover)]
  | skipped htable hindex => exact List.prefix_rfl

theorem run_settled {script : List Json} (h : script.foldlM applyStatement tables = .ok next) :
    tables.map (·.settled) <+: next.map (·.settled) := by
  refine foldlM_invariant (fun next => tables.map (·.settled) <+: next.map (·.settled))
    List.prefix_rfl ?_ h
  intro between statement next hbetween hnext
  exact hbetween.trans (applyStatement_eq_ok.1 hnext).settled

end Settled

/-! ## Beginnings -/

section Beginning

variable {first second : List Json}

/-- What follows a refused beginning does not change its error. -/
theorem tablesOf_append_error (hsecond : ∀ element ∈ second, HoldsStatement element)
    {cause : ParseError} (h : tablesOf (.array first) = .error cause) :
    tablesOf (.array (first ++ second)) = .error cause := by
  obtain ⟨script, hscript⟩ := exists_statements hsecond
  rw [tablesOf_append hscript, h]
  rfl

/-- The tables of a beginning are settled, and they stand in front. -/
theorem tablesOf_append_ok (hsecond : ∀ element ∈ second, HoldsStatement element)
    {tables : List Table} (h : tablesOf (.array (first ++ second)) = .ok tables) :
    ∃ earlier, tablesOf (.array first) = .ok earlier ∧
      earlier.map (·.settled) <+: tables.map (·.settled) := by
  obtain ⟨script, hscript⟩ := exists_statements hsecond
  rw [tablesOf_append hscript, bind_eq_ok] at h
  obtain ⟨earlier, hearlier, hrun⟩ := h
  refine ⟨earlier, hearlier, ?_⟩
  rw [← finished_of_tablesOf hearlier, foldlM_image finished_applyStatement, map_eq_ok] at hrun
  obtain ⟨left, hleft, rfl⟩ := hrun
  rw [settled_finished]
  exact run_settled hleft

end Beginning

/--
**Refused beginnings stay refused, accepted ones are kept.** An element without a statement is
reported whatever the other elements are. When all elements that follow hold statements, the
error of a refused beginning is the error of the whole script, and an accepted script has only
accepted beginnings, whose tables it settles in front of its own: their names and those of their
columns, the types, primary and not-null marks, defaults and foreign keys.
-/
theorem tablesOf_beginning :
    (∀ elements : List Json, (∃ element ∈ elements, ¬HoldsStatement element) →
      tablesOf (.array elements) = .error (.missingField "RawStmt.stmt")) ∧
    ∀ first second : List Json, (∀ element ∈ second, HoldsStatement element) →
      (∀ cause, tablesOf (.array first) = .error cause →
        tablesOf (.array (first ++ second)) = .error cause) ∧
      ∀ tables, tablesOf (.array (first ++ second)) = .ok tables →
        ∃ earlier, tablesOf (.array first) = .ok earlier ∧
          earlier.map (·.settled) <+: tables.map (·.settled) := by
  constructor
  · rintro elements ⟨element, hmem, hmissing⟩
    rw [tablesOf, statements_of_missing hmem hmissing]
    rfl
  · intro first second hsecond
    constructor
    · intro cause h
      exact tablesOf_append_error hsecond h
    · intro tables h
      exact tablesOf_append_ok hsecond h

theorem holdsStatement_of_mem_map {script : List Json} :
    ∀ element ∈ script.map rawNode, HoldsStatement element := by
  intro element hmem
  obtain ⟨statement, -, rfl⟩ := List.mem_map.1 hmem
  exact ⟨statement, require_eq_ok.1 (require_rawStmt statement)⟩

/-- An index on users that are not there yet: in front of a `null`, which is no statement, and in
front of the blog. And the blog after its two tables. -/
theorem blogTree_beginning :
    tablesOf (.array [rawNode (indexNode "users" [indexElement "nick"] true), .null]) =
        .error (.missingField "RawStmt.stmt") ∧
      tablesOf (.array ([rawNode (indexNode "users" [indexElement "nick"] true)] ++
        blogScript.map rawNode)) = .error (.unknownTable "users" .createIndex) ∧
      ∃ earlier, tablesOf (.array ((blogScript.take 2).map rawNode)) = .ok earlier ∧
        earlier.map (·.settled) <+: blogTables.map (·.settled) := by
  obtain ⟨hmissing, hbeginning⟩ := tablesOf_beginning
  refine ⟨?_, ?_, ?_⟩
  · refine hmissing _ ⟨.null, by simp, ?_⟩
    rintro ⟨statement, hstatement⟩
    have hnone : (Json.null).get? "RawStmt.stmt" = none := by decide +kernel
    rw [hnone] at hstatement
    cases hstatement
  · refine (hbeginning _ _ holdsStatement_of_mem_map).1 _ ?_
    decide +kernel
  · refine (hbeginning _ ((blogScript.drop 2).map rawNode) holdsStatement_of_mem_map).2 _ ?_
    rw [← List.map_append, List.take_append_drop]
    exact tablesOf_blogTree

end EntSchema.ParseTree
