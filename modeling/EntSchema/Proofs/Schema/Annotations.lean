import EntSchema.Proofs.Schema.Imports
import EntSchema.Proofs.Schema.Listing
import EntSchema.Proofs.Schema.Literals
import EntSchema.Proofs.Text.Lines

/-!
# Annotations for the database

A default value that the database evaluates comes with an annotation, which has the expression in it
as a Go literal. An annotation has three lines, in itself and in every declaration that it is a link
of, and the literal is in one of them as a whole: no line of a declaration ends inside it, whatever
the expression is.
-/

namespace EntSchema.Schema

open Relational Config

/-- The line that opens an annotation. -/
def annotationOpening : String := "Annotations(&entsql.Annotation\x7b"

/-- The line that closes it. -/
def annotationClosing : String := "\x7d)"

/-- The line between them, which has the literal in it. -/
def defaultLine (sql : String) : String := "\tDefault: " ++ goLiteral sql ++ ","

section Annotation

variable {sql item : String} {line : List Char} {links : List Link} {link : Link}

theorem toList_rawDefault (sql : String) :
    (Link.rawDefault sql).text.toList = annotationOpening.toList ++
      '\n' :: ((defaultLine sql).toList ++ '\n' :: annotationClosing.toList) := by
  have hstart : "Annotations(&entsql.Annotation\x7b\n\tDefault: ".toList =
      annotationOpening.toList ++ '\n' :: "\tDefault: ".toList := by simp [annotationOpening]
  have hend : ",\n\x7d)".toList = ",".toList ++ '\n' :: annotationClosing.toList := by
    simp [annotationClosing]
  have htext : (Link.rawDefault sql).text =
      "Annotations(&entsql.Annotation\x7b\n\tDefault: " ++ goLiteral sql ++ ",\n\x7d)" := rfl
  rw [htext, defaultLine]
  simp only [String.toList_append, hstart, hend, List.append_assoc, List.cons_append]

theorem not_mem_defaultLine {c : Char} (hcontrol : Unicode.isControl c = true) (htab : c ≠ '\t') :
    c ∉ (defaultLine sql).toList := by
  have hstart : "\tDefault: ".toList.all (fun d => d == '\t' || !Unicode.isControl d) = true := by
    decide
  have hcomma : ",".toList.all (fun d => !Unicode.isControl d) = true := by decide
  intro hmem
  rw [defaultLine, String.toList_append, String.toList_append] at hmem
  rcases List.mem_append.1 hmem with hmem | hmem
  · rcases List.mem_append.1 hmem with hmem | hmem
    · have hallowed := List.all_eq_true.1 hstart c hmem
      simp [hcontrol, htab] at hallowed
    · rw [isControl_of_mem_goLiteral c hmem] at hcontrol
      cases hcontrol
  · have hallowed := List.all_eq_true.1 hcomma c hmem
    simp [hcontrol] at hallowed

/-- **An annotation has three lines**, and the literal is in one of them as a whole. -/
theorem lines_rawDefault (sql : String) :
    Text.lines (Link.rawDefault sql).text.toList =
      [annotationOpening.toList, (defaultLine sql).toList, annotationClosing.toList] := by
  have hopening : Text.lines (annotationOpening.toList ++ ['\n']) = [annotationOpening.toList] :=
    Text.lines_single (by decide) (by decide)
  rw [toList_rawDefault, Text.lines_between (not_mem_defaultLine (by decide) (by decide))
    (not_mem_defaultLine (by decide) (by decide)), hopening]
  rfl

/-- A line of a declaration that is neither the first nor the last one is written behind three
tabs. -/
theorem mem_itemLines {before after : List (List Char)}
    (h : Text.lines item.toList = before ++ line :: after) (hbefore : before ≠ [])
    (hafter : after ≠ []) : String.ofList ('\t' :: '\t' :: '\t' :: line) ∈ itemLines item := by
  have hfirst : before.length ≠ 0 := mt List.length_eq_zero_iff.1 hbefore
  have hlast : after.length ≠ 0 := mt List.length_eq_zero_iff.1 hafter
  refine List.mem_map_of_mem ?_
  rw [closeLines_eq_mapIdx, indentLines_eq_mapIdx, List.mapIdx_mapIdx, List.length_mapIdx, h,
    List.mem_mapIdx]
  refine ⟨before.length, by simp, ?_⟩
  rw [List.getElem_append_right (Nat.le_refl _)]
  simp [hfirst, hlast]

theorem exists_intercalate_of_mem {separator part : List Char} {parts : List (List Char)}
    (h : part ∈ parts) :
    ∃ before after, separator.intercalate parts = before ++ (part ++ after) := by
  induction parts with
  | nil => cases h
  | cons first rest ih =>
    cases rest with
    | nil =>
      rw [List.mem_singleton.1 h, List.intercalate_singleton]
      exact ⟨[], [], (List.append_nil first).symm⟩
    | cons second rest =>
      rw [List.intercalate_cons_cons, List.append_assoc]
      rcases List.mem_cons.1 h with rfl | hrest
      · exact ⟨[], _, rfl⟩
      · obtain ⟨before, after, hlater⟩ := ih hrest
        rw [hlater]
        exact ⟨first ++ (separator ++ before), after, by simp only [List.append_assoc]⟩

/-- Each link of a chain stands in its text. -/
theorem exists_toList_chainText (h : link ∈ links) :
    ∃ before after, (chainText links).toList = before ++ (link.text.toList ++ after) := by
  rw [chainText, String.toList_intercalate, List.map_map]
  exact exists_intercalate_of_mem (List.mem_map_of_mem h)

/-- **No line of a declaration ends inside the literal.** -/
theorem defaultLine_mem_itemLines (h : .rawDefault sql ∈ links) :
    "\t\t\t" ++ defaultLine sql ∈ itemLines (chainText links) := by
  obtain ⟨before, after, hchain⟩ := exists_toList_chainText h
  have htext : (chainText links).toList =
      (before ++ annotationOpening.toList) ++
        '\n' :: ((defaultLine sql).toList ++ '\n' :: (annotationClosing.toList ++ after)) := by
    rw [hchain, toList_rawDefault]
    simp only [List.append_assoc, List.cons_append]
  have hlines := congrArg Text.lines htext
  rw [Text.lines_between (not_mem_defaultLine (by decide) (by decide))
    (not_mem_defaultLine (by decide) (by decide))] at hlines
  have hmem := mem_itemLines hlines
    (Text.lines_ne_nil (List.append_ne_nil_of_right_ne_nil _ (List.cons_ne_nil _ _)))
    (Text.lines_ne_nil (List.append_ne_nil_of_left_ne_nil (by decide) _))
  have hline : "\t\t\t" ++ defaultLine sql =
      String.ofList ('\t' :: '\t' :: '\t' :: (defaultLine sql).toList) := by
    rw [← String.toList_inj, String.toList_append, String.toList_ofList, String.toList_ofList]
    simp only [List.cons_append, List.nil_append]
  rwa [hline]

/-- A column with an annotation has a declaration with one in its file. -/
theorem exists_rawDefault {file : SchemaFile} {config : Config} {table : Table} {column : Column}
    {value : DefaultValue} (hfile : fileOf config table = .ok file) (hcolumn : column ∈ table.columns)
    (htype : GoesByType config column) (hdeclared : declaredDefault? column = some value)
    (hsql : value.rawSql? = some sql) :
    ∃ links, chainText links ∈ file.fields ∧ .rawDefault sql ∈ links := by
  obtain ⟨hall, rfl⟩ := fileOf_eq_ok.1 hfile
  obtain ⟨outcome, houtcome⟩ := hall column hcolumn
  have hruled := ruled_fieldOf config table.name column
  generalize hresult : fieldOf config table.name column = result at houtcome hruled
  cases hruled with
  | skipped hkey =>
    rw [htype.notKey] at hkey
    cases hkey
  | overridden _ hrule =>
    rw [htype.noOverride] at hrule
    cases hrule
  | unmapped => cases houtcome
  | conflicting => cases houtcome
  | @mapped builder =>
    have hraw : .rawDefault sql ∈ columnLinks config.switches column builder
        (config.refinements.lookup builder) :=
      rawDefault_mem_columnLinks.2 ⟨value, hdeclared, hsql⟩
    refine ⟨_, List.mem_filterMap.2 ⟨column, hcolumn, ?_⟩, hraw⟩
    rw [FieldResult.text?, hresult]
    rfl

/-- The lines of a declaration are lines of the file that lists it. -/
theorem itemLines_subset_fileLines {file : SchemaFile} (h : item ∈ file.fields) (hne : item ≠ "") :
    itemLines item ⊆ fileLines file := by
  intro text htext
  have hfields : text ∈ methodLines file.entity "Fields" "ent.Field" file.fields := by
    rw [methodLines]
    refine List.mem_append_left _ (List.mem_append_right _ (List.mem_flatMap.2 ⟨item, ?_, htext⟩))
    exact List.mem_filter.2 ⟨h, decide_eq_true hne⟩
  rw [fileLines]
  exact List.mem_append_left _ (List.mem_append_right _ hfields)

end Annotation

/-- **An annotation for the database says what the database evaluates.** The literal in it is read to
its end, so no quote closes it early, and it denotes the expression and nothing else. It has no control
character in it, so its line is one of the three lines of the annotation, one of those of every
declaration with the annotation, and it comes to the source text of the file as a whole. -/
theorem goLiteral_faithful (sql : String) :
    (∀ s, Denotes (goLiteral sql).toList s ↔ s = sql.toList) ∧
      (∀ c ∈ (goLiteral sql).toList, Unicode.isControl c = false) ∧
      Text.lines (Link.rawDefault sql).text.toList =
        [annotationOpening.toList, (defaultLine sql).toList, annotationClosing.toList] ∧
      (∀ links, .rawDefault sql ∈ links →
        "\t\t\t" ++ defaultLine sql ∈ itemLines (chainText links)) ∧
      ∀ config table file, fileOf config table = .ok file →
        ∀ column ∈ table.columns, GoesByType config column → ∀ value,
          declaredDefault? column = some value → value.rawSql? = some sql →
          "\t\t\t" ++ defaultLine sql ∈ fileLines file := by
  have hdenotes : ∀ s, Denotes (goLiteral sql).toList s ↔ s = sql.toList := by
    intro s
    constructor
    · intro h
      exact h.unique (denotes_goLiteral sql)
    · rintro rfl
      exact denotes_goLiteral sql
  refine ⟨hdenotes, isControl_of_mem_goLiteral, lines_rawDefault sql,
    fun _ => defaultLine_mem_itemLines, ?_⟩
  intro config table file hfile column hcolumn htype value hdeclared hsql
  obtain ⟨links, hlinks, hraw⟩ := exists_rawDefault hfile hcolumn htype hdeclared hsql
  have hline := defaultLine_mem_itemLines hraw
  refine itemLines_subset_fileLines hlinks ?_ hline
  intro hempty
  rw [hempty] at hline
  cases hline

end EntSchema.Schema
