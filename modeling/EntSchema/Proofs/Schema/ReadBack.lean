import EntSchema.Proofs.Schema.Listing

/-!
# Declarations are read back from the source text

A schema file has up to three lists of declarations, among lines that are about other things. A line
of the latter kind opens no list, since it starts otherwise or has a quote in it (`IsInert`), and
the lines of a list have two tabs in front, which neither the line that opens a list has nor the one
that closes it. So each list is found where it has been written (`listing_render`), and the text
determines the declarations: `render_readsBack`.
-/

namespace EntSchema.Schema

open Text (linePieces)

/-! ## The lists of a file -/

/-- What a file lists. -/
inductive ListKind where
  | annotations
  | fields
  | indexes
  deriving DecidableEq, Repr

namespace ListKind

/-- The method that lists the declarations of a kind. -/
def method : ListKind → String
  | annotations => "Annotations"
  | fields => "Fields"
  | indexes => "Indexes"

/-- The type of the declarations of a kind. -/
def itemType : ListKind → String
  | annotations => "schema.Annotation"
  | fields => "ent.Field"
  | indexes => "ent.Index"

/-- The declarations of a kind. -/
def items (file : SchemaFile) : ListKind → List String
  | annotations => file.annotations
  | fields => file.fields
  | indexes => file.indexes

/-- The lines that are written for a kind. -/
def lines (file : SchemaFile) : ListKind → List String
  | annotations => methodLinesIfAny file.entity "Annotations" "schema.Annotation" file.annotations
  | fields => methodLines file.entity "Fields" "ent.Field" file.fields
  | indexes => methodLinesIfAny file.entity "Indexes" "ent.Index" file.indexes

/-- The kinds in the order of their lists. -/
def all : List ListKind := [annotations, fields, indexes]

theorem mem_all (kind : ListKind) : kind ∈ all := by
  cases kind <;> decide

end ListKind

/-- A file whose names are one line each, and whose listed declarations are plain. -/
structure IsPlainFile (file : SchemaFile) : Prop where
  entity : '\n' ∉ file.entity.toList
  imports : ∀ path ∈ file.imports, '\n' ∉ path.toList
  items : ∀ kind : ListKind, ∀ item ∈ listed (kind.items file), IsPlainItem item

instance (file : SchemaFile) : Decidable (IsPlainFile file) :=
  decidable_of_iff ('\n' ∉ file.entity.toList ∧ (∀ path ∈ file.imports, '\n' ∉ path.toList) ∧
      ∀ kind ∈ ListKind.all, ∀ item ∈ listed (kind.items file), IsPlainItem item)
    ⟨fun ⟨h, h', h''⟩ => ⟨h, h', fun kind => h'' kind kind.mem_all⟩,
      fun ⟨h, h', h''⟩ => ⟨h, h', fun kind _ => h'' kind⟩⟩

/-! ## The lines of a file -/

/-- A line that opens no list: it starts otherwise, or it has a quote in it. -/
structure IsInert (line : List Char) : Prop where
  single : '\n' ∉ line
  opensNothing : line.take 2 ≠ ['\t', 'r'] ∨ '"' ∈ line

section Lines

variable {file : SchemaFile} {entity method itemType : String} {items : List String}
  {line : List Char}

theorem toList_unlines (lines : List String) :
    (unlines lines).toList = (lines.map String.toList).flatMap (· ++ ['\n']) := by
  rw [unlines, String.toList_join, List.flatMap_map, List.flatMap_map]
  apply List.flatMap_congr
  intro line _
  exact String.toList_append

theorem take_openingLine (itemType : String) :
    (openingLine itemType).take 2 = ['\t', 'r'] := by
  simp [openingLine]

theorem IsInert.ne_openingLine (h : IsInert line) (htype : '"' ∉ itemType.toList) :
    line ≠ openingLine itemType := by
  rintro rfl
  rcases h.opensNothing with hstart | hquote
  · exact hstart (take_openingLine itemType)
  · simp [openingLine, htype] at hquote

theorem quote_mem_importText (path : String) : '"' ∈ (importText path).toList := by
  rw [importText]
  split
  · rename_i hquote
    exact List.contains_iff_mem.1 hquote
  · simp [inQuotes]

theorem lineFeed_not_mem_importText {path : String} (h : '\n' ∉ path.toList) :
    '\n' ∉ (importText path).toList := by
  rw [importText]
  split
  · exact h
  · simp [inQuotes, h]

theorem lineFeed_not_mem_builtinImports {path : String} (h : path ∈ builtinImports file) :
    '\n' ∉ path.toList := by
  simp only [builtinImports, List.mem_append, List.mem_ite_nil_left, List.mem_singleton] at h
  rcases h with ((rfl | ⟨-, rfl⟩) | ⟨-, rfl⟩) | ⟨-, rfl⟩ <;> decide

theorem inert_importLines (himports : ∀ path ∈ file.imports, '\n' ∉ path.toList) :
    ∀ line ∈ importLines file, IsInert line.toList := by
  simp only [importLines, importTexts, List.forall_mem_append, List.forall_mem_map,
    List.forall_mem_singleton]
  refine ⟨⟨⟨by decide, by decide⟩, ?_⟩, ⟨by decide, by decide⟩⟩
  intro text htext
  rw [Ordered.setOf, Ordered.mem_insertAll, or_iff_right List.not_mem_nil] at htext
  obtain ⟨path, hpath, rfl⟩ := List.mem_map.1 htext
  have hfeed : '\n' ∉ path.toList := by
    rcases List.mem_append.1 hpath with hbuiltin | hown
    · exact lineFeed_not_mem_builtinImports hbuiltin
    · exact himports path hown
  constructor
  · simp [lineFeed_not_mem_importText hfeed]
  · right
    simp [quote_mem_importText path]

theorem inert_typeLines (hentity : '\n' ∉ entity.toList) :
    ∀ line ∈ typeLines entity, IsInert line.toList := by
  simp only [typeLines, List.forall_mem_cons]
  refine ⟨⟨by decide, by decide⟩, ⟨by simp [hentity], by simp⟩, ⟨by simp [hentity], by simp⟩,
    ⟨by decide, by decide⟩, ⟨by decide, by decide⟩, by simp⟩

/-- The lines in front of the lists. -/
def headLines (file : SchemaFile) : List String :=
  ["package schema", ""] ++ importLines file ++ typeLines file.entity

theorem inert_headLines (hentity : '\n' ∉ file.entity.toList)
    (himports : ∀ path ∈ file.imports, '\n' ∉ path.toList) :
    ∀ line ∈ headLines file, IsInert line.toList := by
  simp only [headLines, List.forall_mem_append, List.forall_mem_cons]
  exact ⟨⟨⟨⟨by decide, by decide⟩, ⟨by decide, by decide⟩, by simp⟩, inert_importLines himports⟩,
    inert_typeLines hentity⟩

/-- The lines of a method in front of its list. -/
def titleLines (entity method itemType : String) : List String :=
  ["",
    "// " ++ method ++ " of the " ++ entity ++ ".",
    "func (" ++ entity ++ ") " ++ method ++ "() []" ++ itemType ++ " \x7b"]

theorem inert_titleLines (hentity : '\n' ∉ entity.toList) (hmethod : '\n' ∉ method.toList)
    (htype : '\n' ∉ itemType.toList) :
    ∀ line ∈ titleLines entity method itemType, IsInert line.toList := by
  simp only [titleLines, List.forall_mem_cons]
  exact ⟨⟨by decide, by decide⟩, ⟨by simp [hentity, hmethod], by simp⟩,
    ⟨by simp [hentity, hmethod, htype], by simp⟩, by simp⟩

theorem inert_of_mem_laidOut {item : String} (h : line ∈ laidOut item) : IsInert line where
  single := lineFeed_not_mem_of_mem_laidOut h
  opensNothing := by
    left
    rw [take_of_mem_laidOut h]
    decide

/-- The lines of a method: its title, the list, and its end. -/
theorem toList_methodLines (entity method itemType : String)
    (hitems : ∀ item ∈ listed items, IsPlainItem item) :
    (methodLines entity method itemType items).map String.toList =
      (titleLines entity method itemType).map String.toList ++
        openingLine itemType :: ((listed items).flatMap laidOut ++ closingLine :: [['\x7d']]) := by
  have hbody : ((listed items).flatMap itemLines).map String.toList =
      (listed items).flatMap laidOut := by
    rw [List.map_flatMap]
    apply List.flatMap_congr
    intro item hitem
    have hne : item ≠ "" := of_decide_eq_true (List.mem_filter.1 hitem).2
    exact itemLines_eq_laidOut hne (hitems item hitem)
  rw [← hbody]
  simp only [methodLines, listed, titleLines, openingLine, List.map_append, List.map_cons,
    List.map_nil, List.cons_append, List.nil_append]
  rfl

/-- The only line of a method that opens a list is the one that opens its own. -/
theorem methodLines_inert_or_opening (hentity : '\n' ∉ entity.toList)
    (hmethod : '\n' ∉ method.toList) (htype : '\n' ∉ itemType.toList)
    (hitems : ∀ item ∈ listed items, IsPlainItem item) :
    ∀ line ∈ methodLines entity method itemType items,
      IsInert line.toList ∨ line.toList = openingLine itemType := by
  have hall : ∀ line ∈ (methodLines entity method itemType items).map String.toList,
      IsInert line ∨ line = openingLine itemType := by
    rw [toList_methodLines entity method itemType hitems]
    intro line hline
    rcases List.mem_append.1 hline with htitle | hline
    · obtain ⟨text, htext, rfl⟩ := List.mem_map.1 htitle
      exact .inl (inert_titleLines hentity hmethod htype text htext)
    · rcases List.mem_cons.1 hline with rfl | hline
      · exact .inr rfl
      · rcases List.mem_append.1 hline with hbody | hend
        · obtain ⟨item, -, hlaid⟩ := List.mem_flatMap.1 hbody
          exact .inl (inert_of_mem_laidOut hlaid)
        · left
          rcases List.mem_cons.1 hend with rfl | hend
          · exact ⟨by decide, by decide⟩
          · rw [List.mem_singleton.1 hend]
            exact ⟨by decide, by decide⟩
  intro line hline
  exact hall line.toList (List.mem_map_of_mem hline)

theorem openingLine_not_mem_of_inert (htype : '"' ∉ itemType.toList) {lines : List String}
    (h : ∀ line ∈ lines, IsInert line.toList) :
    openingLine itemType ∉ lines.map String.toList := by
  intro hmem
  obtain ⟨line, hline, hopening⟩ := List.mem_map.1 hmem
  exact (h line hline).ne_openingLine htype hopening

end Lines

/-! ## Reading a file -/

section File

variable {file : SchemaFile} {kind other : ListKind} {after : List (List Char)}

theorem ListKind.oneLine (kind : ListKind) :
    '\n' ∉ kind.method.toList ∧ '\n' ∉ kind.itemType.toList ∧ '"' ∉ kind.itemType.toList := by
  cases kind <;> decide

theorem ListKind.openingLine_inj (h : openingLine kind.itemType = openingLine other.itemType) :
    kind = other := by
  revert h
  cases kind <;> cases other <;> decide

/-- A kind has its method, unless there is nothing to list. -/
theorem ListKind.lines_eq (file : SchemaFile) (kind : ListKind) :
    kind.lines file = methodLines file.entity kind.method kind.itemType (kind.items file) ∨
      kind.lines file = [] ∧ kind.items file = [] := by
  have hany : ∀ entity method itemType : String, ∀ items : List String,
      methodLinesIfAny entity method itemType items = methodLines entity method itemType items ∨
        methodLinesIfAny entity method itemType items = [] ∧ items = [] := by
    intro entity method itemType items
    cases items with
    | nil => exact .inr ⟨rfl, rfl⟩
    | cons item rest => exact .inl rfl
  cases kind with
  | annotations => exact hany _ _ _ _
  | fields => exact .inl rfl
  | indexes => exact hany _ _ _ _

theorem ListKind.inert_or_opening (h : IsPlainFile file) (kind : ListKind) :
    ∀ line ∈ kind.lines file, IsInert line.toList ∨ line.toList = openingLine kind.itemType := by
  obtain ⟨hmethod, htype, -⟩ := kind.oneLine
  rcases kind.lines_eq file with hlines | ⟨hlines, -⟩
  · rw [hlines]
    exact methodLines_inert_or_opening h.entity hmethod htype (h.items kind)
  · rw [hlines]
    simp

/-- A list of one kind is not opened in that of another. -/
theorem ListKind.openingLine_not_mem (h : IsPlainFile file) (hne : kind ≠ other) :
    openingLine kind.itemType ∉ (other.lines file).map String.toList := by
  intro hmem
  obtain ⟨line, hline, hopening⟩ := List.mem_map.1 hmem
  rcases other.inert_or_opening h line hline with hinert | hother
  · exact hinert.ne_openingLine kind.oneLine.2.2 hopening
  · exact hne (openingLine_inj (hopening.symm.trans hother))

/-- **A list is found in the lines of its kind.** -/
theorem ListKind.between_lines (h : IsPlainFile file) (kind : ListKind)
    (hafter : openingLine kind.itemType ∉ after) :
    between (openingLine kind.itemType) closingLine
        ((kind.lines file).map String.toList ++ after) =
      (listed (kind.items file)).flatMap laidOut := by
  obtain ⟨hmethod, htype, hquote⟩ := kind.oneLine
  rcases kind.lines_eq file with hlines | ⟨hlines, hitems⟩
  · have htitle := openingLine_not_mem_of_inert hquote
      (inert_titleLines h.entity hmethod htype)
    have hbody : closingLine ∉ (listed (kind.items file)).flatMap laidOut := by
      intro hmem
      obtain ⟨item, -, hlaid⟩ := List.mem_flatMap.1 hmem
      exact absurd (take_of_mem_laidOut hlaid) (by decide)
    rw [hlines, toList_methodLines _ _ _ (h.items kind), List.append_assoc, between_append htitle,
      List.cons_append, List.append_assoc, List.cons_append]
    exact between_opening hbody
  · rw [hlines, hitems, List.map_nil, List.nil_append, between_of_not_mem hafter]
    rfl

/-- The lines in front of the lists, and those of each kind. -/
theorem fileLines_eq (file : SchemaFile) :
    fileLines file = headLines file ++ ListKind.all.flatMap (·.lines file) := by
  simp only [fileLines, headLines, ListKind.all, ListKind.lines, List.flatMap_cons,
    List.flatMap_nil, List.append_nil, List.append_assoc]

/-- **The lines of the source text are those that are written.** -/
theorem linePieces_render (h : IsPlainFile file) :
    linePieces file.render.toList = (fileLines file).map String.toList ++ [[]] := by
  have hsingle : ∀ line ∈ (fileLines file).map String.toList, '\n' ∉ line := by
    rw [fileLines_eq, List.forall_mem_map, List.forall_mem_append]
    refine ⟨fun line hline => (inert_headLines h.entity h.imports line hline).single, ?_⟩
    intro line hline
    obtain ⟨kind, -, hkind⟩ := List.mem_flatMap.1 hline
    rcases kind.inert_or_opening h line hkind with hinert | hopening
    · exact hinert.single
    · rw [hopening]
      simp [openingLine, kind.oneLine.2.1]
  rw [SchemaFile.render, toList_unlines, Text.linePieces_flatMap hsingle]

/-- **A list of a file has the lines of its declarations, and no others.** -/
theorem listing_render (h : IsPlainFile file) (kind : ListKind) :
    listing kind.itemType file.render = (listed (kind.items file)).flatMap laidOut := by
  obtain ⟨before, after, hall, hbefore, hafter⟩ :
      ∃ before after, ListKind.all = before ++ kind :: after ∧ kind ∉ before ∧ kind ∉ after := by
    cases kind with
    | annotations => exact ⟨[], [.fields, .indexes], rfl, by decide, by decide⟩
    | fields => exact ⟨[.annotations], [.indexes], rfl, by decide, by decide⟩
    | indexes => exact ⟨[.annotations, .fields], [], rfl, by decide, by decide⟩
  have hquiet : ∀ kinds : List ListKind, kind ∉ kinds →
      openingLine kind.itemType ∉ (kinds.flatMap (·.lines file)).map String.toList := by
    intro kinds hkinds hmem
    rw [List.map_flatMap] at hmem
    obtain ⟨other, hother, hmem⟩ := List.mem_flatMap.1 hmem
    exact ListKind.openingLine_not_mem h (ne_of_mem_of_not_mem hother hkinds).symm hmem
  have hhead := openingLine_not_mem_of_inert kind.oneLine.2.2 (inert_headLines h.entity h.imports)
  -- A kind without a method lists nothing, and that no later line opens its list is what shows it.
  have hrest : openingLine kind.itemType ∉
      (after.flatMap (·.lines file)).map String.toList ++ [[]] := by
    intro hmem
    rcases List.mem_append.1 hmem with hmem | hmem
    · exact hquiet after hafter hmem
    · exact absurd (List.mem_singleton.1 hmem) (by simp [openingLine])
  rw [listing, linePieces_render h, fileLines_eq, hall, List.map_append, List.append_assoc,
    between_append hhead, List.flatMap_append, List.map_append, List.append_assoc,
    between_append (hquiet before hbefore), List.flatMap_cons, List.map_append, List.append_assoc,
    kind.between_lines h hrest]

/-- **The source text determines the declarations.** Each list of a file is read back from its text:
no declaration is lost, merged, split or moved, and of its lines the last one alone has a comma
added. -/
theorem render_readsBack (h : IsPlainFile file) (kind : ListKind) :
    ReadsBack kind.itemType (kind.items file) file.render where
  declarations := by
    rw [declarations, listing_render h kind, splitItems_laidOut (h.items kind), List.map_map]
    exact (List.map_congr_left fun item _ => itemOfLines_laidOut item).trans (List.map_id _)
  lines := listing_render h kind

end File

/-- A file with a declaration whose further lines look like the layout itself. -/
def orderFile : SchemaFile where
  stem := "order"
  imports := ["decimal \"github.com/shopspring/decimal\"", "entgo.io/ent/dialect/entsql"]
  entity := "Order"
  annotations := ["field.ID(\"a\", \"b\")"]
  fields :=
    [ "field.Time(\"at\").\nAnnotations(&entsql.Annotation\x7b\n\tDefault: \"now()\",\n\x7d)", ""
    , "field.Text(\"note\").\n\t\x7d\n\treturn []ent.Field\x7b\n\n\t\tGoType(Note),,"
    , "Optional()" ]
  indexes := ["", "index.Fields(\"a\", \"b\").\nUnique()"]

/-- Its three declarations are read back, in their order. -/
theorem orderFile_readsBack :
    IsPlainFile orderFile ∧
      declarations "ent.Field" orderFile.render =
        [ "field.Time(\"at\").\nAnnotations(&entsql.Annotation\x7b\n\tDefault: \"now()\",\n\x7d)"
        , "field.Text(\"note\").\n\t\x7d\n\treturn []ent.Field\x7b\n\n\t\tGoType(Note),,"
        , "Optional()" ] := by
  have hplain : IsPlainFile orderFile := by decide +kernel
  exact ⟨hplain, (render_readsBack hplain .fields).declarations⟩

end EntSchema.Schema
