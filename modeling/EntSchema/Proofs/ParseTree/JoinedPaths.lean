import EntSchema.Proofs.Json.Trail
import EntSchema.Proofs.ParseTree.Nodes
import EntSchema.Proofs.ParseTree.Steps

/-!
# Lookups in two halves

A foreign key looks for its column in two halves: for the list of columns, and inside the list for
the name of the first one. The halves are needed to tell a list that is absent, where the key is the
implicit one, from a list that names nothing, which is an error. What is read, and what is
reported, is that of one lookup along the joined path all the same (`foreignKeyTarget_eq_joined`).

The reason holds of every value and of any two paths: they compose (`get?_joined`).

## Main results

* `foreignKeyTarget_eq_joined` — a foreign key that names a column, read along one path.
* `get?_joined` — joined paths, the trails of a path, and what no path sees.
-/

namespace EntSchema.ParseTree

open Relational

/-- **A foreign key reads its column along one path**, where it has a list of columns at all. When
the list names no column, the path that is reported is the joined one. -/
theorem foreignKeyTarget_eq_joined (tables : List Table) (current : Table) (constraint : Json) :
    foreignKeyTarget tables current constraint = do
      let table ← requireText constraint "pktable.RangeVar.relname"
      if (constraint.get? "pk_attrs").isSome then
        return { table, column := ← requireText constraint "pk_attrs.0.String.str" }
      else return { table, column := implicitTarget table (current :: tables) } := by
  rw [foreignKeyTarget]
  refine bind_congr fun table => ?_
  cases hcolumns : constraint.get? "pk_attrs" with
  | none =>
    show _ = pure (ForeignKey.mk table (implicitTarget table (current :: tables)))
    rw [implicitTarget]
    cases primaryColumn? table (current :: tables) with
    | none => rfl
    | some key => rfl
  | some columns =>
    have hpath : "pk_attrs.0.String.str" = "pk_attrs" ++ "." ++ "0.String.str" := rfl
    have hjoined : constraint.nonEmptyText? "pk_attrs.0.String.str" =
        columns.nonEmptyText? "0.String.str" := by
      rw [hpath, Json.nonEmptyText?_append_dot "0.String.str" hcolumns]
    rw [requireText, hjoined]
    cases hname : columns.nonEmptyText? "0.String.str" with
    | none =>
      simp only [hname]
      rfl
    | some column =>
      simp only [hname]
      rfl

/-- **Paths compose.** A joined path leads to a value exactly when its first part leads to some
value and its second part from there to the same one. A path leads to a value exactly when it
spells a trail there, through keys, empty ones too, and positions, and no key of that trail holds a
dot. The fields whose key holds a dot change nothing for a path. So a foreign key that looks for its
column in two halves reads it along the joined path. -/
theorem get?_joined (node : Json) (path rest : String) :
    (∀ value, node.get? (path ++ "." ++ rest) = some value ↔
      ∃ middle, node.get? path = some middle ∧ middle.get? rest = some value) ∧
    (∀ value, node.get? path = some value ↔
      ∃ links, Json.Trail node links value ∧ Json.Spells path links ∧
        ∀ name, Json.Link.key name ∈ links → '.' ∉ name.toList) ∧
    node.undotted.get? path = (node.get? path).map Json.undotted ∧
    ∀ tables current, foreignKeyTarget tables current node = do
      let table ← requireText node "pktable.RangeVar.relname"
      if (node.get? "pk_attrs").isSome then
        return { table, column := ← requireText node "pk_attrs.0.String.str" }
      else return { table, column := implicitTarget table (current :: tables) } := by
  refine ⟨?_, ?_, Json.get?_undotted node path, ?_⟩
  · intro value
    rw [Json.get?_append_dot, Option.bind_eq_some_iff]
  · intro value
    exact Json.get?_eq_some_iff
  · intro tables current
    exact foreignKeyTarget_eq_joined tables current node

/-- A value with empty keys, with a key that is a numeral, and with a key that is a whole path. -/
def emptyKeysNode : Json :=
  .object
    [ ("", .object [("0", .array [.object [("", .text "found")]])])
    , (".0.0.", .text "never seen") ]

/-- The links from `emptyKeysNode` to its text. The same step stands for a key first, and then for a
position. -/
def emptyKeysLinks : List Json.Link := [.key "", .key "0", .position 0, .key ""]

/-- A path of empty and numeric steps, and its two halves. -/
theorem get?_joined_emptyKeys :
    (Json.Trail emptyKeysNode emptyKeysLinks (.text "found") ∧ Json.Spells ".0.0." emptyKeysLinks ∧
        ∀ name, Json.Link.key name ∈ emptyKeysLinks → '.' ∉ name.toList) ∧
      emptyKeysNode.get? ".0.0." = some (.text "found") ∧
      (∃ middle, emptyKeysNode.get? ".0" = some middle ∧
        middle.get? "0." = some (.text "found")) ∧
      emptyKeysNode.undotted.get? ".0.0." = some (.text "found") := by
  have htrail : Json.Trail emptyKeysNode emptyKeysLinks (.text "found") :=
    .next (.key rfl) (.next (.key rfl) (.next (.position rfl) (.next (.key rfl) (.here _))))
  have hspells : Json.Spells ".0.0." emptyKeysLinks := by
    refine ⟨by decide, [[], ['0'], ['0'], []], ?_, by decide⟩
    exact .cons (.key "") (.cons (.key "0") (.cons (.position rfl) (.cons (.key "") .nil)))
  have hkeys : ∀ name, Json.Link.key name ∈ emptyKeysLinks → '.' ∉ name.toList := by
    intro name hname
    simp only [emptyKeysLinks, List.mem_cons, Json.Link.key.injEq, List.not_mem_nil, or_false,
      reduceCtorEq, false_or] at hname
    rcases hname with rfl | rfl | rfl <;> decide
  have hpath : ".0.0." = ".0" ++ "." ++ "0." := rfl
  obtain ⟨-, htrails, hundotted, -⟩ := get?_joined emptyKeysNode ".0.0." ""
  have hfound := (htrails _).2 ⟨_, htrail, hspells, hkeys⟩
  refine ⟨⟨htrail, hspells, hkeys⟩, hfound, ?_, ?_⟩
  · rw [hpath] at hfound
    exact ((get?_joined emptyKeysNode ".0" "0.").1 _).1 hfound
  · rw [hundotted, hfound]
    rfl

end EntSchema.ParseTree
