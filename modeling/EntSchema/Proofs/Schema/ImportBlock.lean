import EntSchema.Proofs.Ordered.Bytes
import EntSchema.Proofs.Ordered.Set
import EntSchema.Proofs.Schema.ReadBack

/-!
# The import block is canonical

The imports of a source text are a set, written line by line in the order of the bytes. What belongs
to it is known without the program (`Lists`): the imports that the declarations of the file need,
and its own imports, each of them in quotes.

So the block shows the set and nothing else (`importBlock_render`), and imports that come to the
same set come to the same text (`render_congr`). The order of the imports, how often one of them is
there, whether it is in quotes already, and whether the file has it as its own all leave no trace.
-/

namespace EntSchema.Schema

open Text (linePieces)

/-! ## What a block shows -/

/-- The lines between the one that opens the import block of a source text and the next one that
closes it. -/
def importBlock (text : String) : List (List Char) :=
  between "import (".toList [')'] (linePieces text.toList)

/-- How an import is written: in quotes, or as it is when there are quotes in it. -/
inductive WrittenAs (path : String) : String → Prop
  | quoted (h : '"' ∉ path.toList) : WrittenAs path (inQuotes path)
  | verbatim (h : '"' ∈ path.toList) : WrittenAs path path

/-- What the import block of a file lists. -/
inductive Lists (file : SchemaFile) : String → Prop
  | ent : Lists file "\"entgo.io/ent\""
  | field (h : file.fields ≠ [] ∨ file.annotations ≠ []) :
    Lists file "\"entgo.io/ent/schema/field\""
  | schema (h : file.annotations ≠ []) : Lists file "\"entgo.io/ent/schema\""
  | index (h : file.indexes ≠ []) : Lists file "\"entgo.io/ent/schema/index\""
  | own {path text : String} (h : path ∈ file.imports) (htext : WrittenAs path text) :
    Lists file text

/-- A block in the order of the bytes, with one line for each thing that a file lists. -/
structure IsCanonicalBlock (file : SchemaFile) (block : List (List Char)) : Prop where
  increasing : block.Pairwise fun line next => bytesOf line < bytesOf next
  lines : ∀ line, line ∈ block ↔ ∃ text, Lists file text ∧ line = '\t' :: text.toList

/-- The second list of imports says what the first one says, in view of a block that lists them
already. -/
inductive Restated (block : List (List Char)) : List String → List String → Prop
  | permuted {imports imports' : List String} (h : imports.Perm imports') :
    Restated block imports imports'
  | repeated {before after : List String} {path : String} (h : path ∈ before ++ after) :
    Restated block (before ++ after) (before ++ path :: after)
  | quoted {before after : List String} {path : String} (h : '"' ∉ path.toList) :
    Restated block (before ++ path :: after) (before ++ inQuotes path :: after)
  | listed {before after : List String} {path text : String} (h : WrittenAs path text)
    (hblock : '\t' :: text.toList ∈ block) :
    Restated block (before ++ after) (before ++ path :: after)
  | trans {imports imports' imports'' : List String} (h : Restated block imports imports')
    (h' : Restated block imports' imports'') : Restated block imports imports''

section Block

variable {file : SchemaFile} {path text : String} {imports imports' : List String}

/-! ## The set of imports -/

theorem writtenAs_iff : WrittenAs path text ↔ text = importText path := by
  have hcontains : path.toList.contains '"' = true ↔ '"' ∈ path.toList := List.contains_iff_mem
  constructor
  · intro h
    cases h with
    | quoted h => rw [importText, if_neg (mt hcontains.1 h)]
    | verbatim h => rw [importText, if_pos (hcontains.2 h)]
  · rintro rfl
    rw [importText]
    split
    · rename_i hquote
      exact .verbatim (hcontains.1 hquote)
    · rename_i hplain
      exact .quoted (mt hcontains.2 hplain)

/-- What is in quotes stays. -/
theorem importText_inQuotes (h : '"' ∉ path.toList) :
    importText (inQuotes path) = importText path := by
  have hquote : '"' ∈ (inQuotes path).toList := by simp [inQuotes]
  rw [← writtenAs_iff.1 (.verbatim hquote), ← writtenAs_iff.1 (.quoted h)]

theorem mem_builtinImports :
    path ∈ builtinImports file ↔
      path = "entgo.io/ent" ∨
        ((file.fields ≠ [] ∨ file.annotations ≠ []) ∧ path = "entgo.io/ent/schema/field") ∨
        (file.annotations ≠ [] ∧ path = "entgo.io/ent/schema") ∨
        (file.indexes ≠ [] ∧ path = "entgo.io/ent/schema/index") := by
  simp only [builtinImports, List.mem_append, List.mem_ite_nil_left, List.mem_singleton,
    Bool.and_eq_true, List.isEmpty_iff, not_and_or, or_assoc]

/-- **A block lists what the file needs and what it has.** -/
theorem mem_importTexts : text ∈ importTexts file ↔ Lists file text := by
  rw [importTexts, Ordered.setOf, Ordered.mem_insertAll, or_iff_right List.not_mem_nil,
    List.mem_map]
  constructor
  · rintro ⟨path, hpath, rfl⟩
    rcases List.mem_append.1 hpath with hbuiltin | hown
    · rcases mem_builtinImports.1 hbuiltin with rfl | ⟨h, rfl⟩ | ⟨h, rfl⟩ | ⟨h, rfl⟩
      · exact .ent
      · exact .field h
      · exact .schema h
      · exact .index h
    · exact .own hown (writtenAs_iff.2 rfl)
  · intro h
    simp only [List.mem_append, mem_builtinImports]
    cases h with
    | ent => exact ⟨_, .inl (.inl rfl), rfl⟩
    | field h => exact ⟨_, .inl (.inr (.inl ⟨h, rfl⟩)), rfl⟩
    | schema h => exact ⟨_, .inl (.inr (.inr (.inl ⟨h, rfl⟩))), rfl⟩
    | index h => exact ⟨_, .inl (.inr (.inr (.inr ⟨h, rfl⟩))), rfl⟩
    | own h htext => exact ⟨_, .inr h, (writtenAs_iff.1 htext).symm⟩

theorem increasing_importTexts (file : SchemaFile) : Ordered.Increasing (importTexts file) :=
  Ordered.Increasing.insertAll List.Pairwise.nil _

/-! ## Reading the block -/

/-- **The block of a source text is the set of its imports**, whatever the declarations are. -/
theorem importBlock_render (h : ∀ path ∈ file.imports, '\n' ∉ path.toList) :
    importBlock file.render = (importTexts file).map fun text => '\t' :: text.toList := by
  have hfile : fileLines file = ["package schema", ""] ++ importLines file ++
      (typeLines file.entity ++ ListKind.all.flatMap (·.lines file)) := by
    rw [fileLines_eq, headLines, List.append_assoc]
  have hsingle : ∀ line ∈ (["package schema", ""] ++ importLines file).map String.toList,
      '\n' ∉ line := by
    rw [List.forall_mem_map, List.forall_mem_append]
    exact ⟨by decide, fun line hline => (inert_importLines h line hline).single⟩
  have hlines : (["package schema", ""] ++ importLines file).map String.toList =
      ["package schema".toList, []] ++ "import (".toList ::
        ((importTexts file).map (fun text => '\t' :: text.toList) ++ [[')']]) := by
    simp [importLines]
  have hclosing : [')'] ∉ (importTexts file).map fun text => '\t' :: text.toList := by
    intro hmem
    obtain ⟨text, -, hline⟩ := List.mem_map.1 hmem
    cases hline
  rw [importBlock, SchemaFile.render, toList_unlines, hfile, List.map_append, List.flatMap_append,
    Text.linePieces_flatMap_append hsingle, hlines, List.append_assoc,
    between_append (by decide), List.cons_append, List.append_assoc]
  exact between_opening hclosing

/-! ## One set, one text -/

/-- **Imports that come to the same set come to the same text.** -/
theorem render_congr (h : ∀ text, Lists { file with imports := imports' } text ↔
    Lists { file with imports } text) :
    { file with imports := imports' }.render = { file with imports }.render := by
  have hset : importTexts { file with imports := imports' } =
      importTexts { file with imports } := by
    refine List.Pairwise.eq_of_mem_iff (increasing_importTexts _) (increasing_importTexts _) ?_
    intro text
    rw [mem_importTexts, mem_importTexts]
    exact h text
  have hblock : importLines { file with imports := imports' } =
      importLines { file with imports } := by
    rw [importLines, hset, importLines]
  rw [SchemaFile.render, SchemaFile.render, fileLines, fileLines, hblock]

/-- Only its own imports are listed on account of the imports of a file. -/
theorem lists_iff (imports : List String) :
    Lists { file with imports } text ↔
      Lists { file with imports := [] } text ∨ ∃ path ∈ imports, WrittenAs path text := by
  constructor
  · intro h
    cases h with
    | ent => exact .inl .ent
    | field h => exact .inl (.field h)
    | schema h => exact .inl (.schema h)
    | index h => exact .inl (.index h)
    | own h htext => exact .inr ⟨_, h, htext⟩
  · rintro (h | ⟨path, hpath, htext⟩)
    · cases h with
      | ent => exact .ent
      | field h => exact .field h
      | schema h => exact .schema h
      | index h => exact .index h
      | own h _ => cases h
    · exact .own hpath htext

/-- One more import that is listed without it changes nothing. -/
theorem lists_insert {before after : List String}
    (h : ∀ text, WrittenAs path text → Lists { file with imports := before ++ after } text) :
    Lists { file with imports := before ++ path :: after } text ↔
      Lists { file with imports := before ++ after } text := by
  constructor
  · intro hlists
    rcases (lists_iff _).1 hlists with hneeded | ⟨other, hother, htext⟩
    · exact (lists_iff _).2 (.inl hneeded)
    · rcases List.mem_append.1 hother with hbefore | hmem
      · exact .own (List.mem_append_left _ hbefore) htext
      rcases List.mem_cons.1 hmem with rfl | hafter
      · exact h text htext
      · exact .own (List.mem_append_right _ hafter) htext
  · intro hlists
    rcases (lists_iff _).1 hlists with hneeded | ⟨other, hother, htext⟩
    · exact (lists_iff _).2 (.inl hneeded)
    · have hsublist : (before ++ after).Sublist (before ++ path :: after) :=
        (List.Sublist.refl before).append (List.sublist_cons_self path after)
      exact .own (hsublist.mem hother) htext

/-- **Imports that say the same are listed as the same**, one change after the other. -/
theorem Restated.lists {block : List (List Char)} (h : Restated block imports imports')
    (hblock : ∀ text : String, '\t' :: text.toList ∈ block → Lists file text)
    (hstart : ∀ text, Lists { file with imports } text ↔ Lists file text) :
    ∀ text, Lists { file with imports := imports' } text ↔ Lists file text := by
  induction h with
  | @permuted imports imports' hperm =>
    intro text
    rw [← hstart text, lists_iff imports', lists_iff imports]
    simp only [hperm.mem_iff]
  | repeated hpath =>
    intro text
    rw [← hstart text]
    exact lists_insert fun _ htext => .own hpath htext
  | @quoted before after path hplain =>
    intro text
    rw [← hstart text, lists_iff (before ++ path :: after),
      lists_iff (before ++ inQuotes path :: after)]
    simp only [List.mem_append, List.mem_cons, or_and_right, exists_or, exists_eq_left,
      writtenAs_iff, importText_inQuotes hplain]
  | listed htext hline =>
    intro text
    rw [← hstart text]
    refine lists_insert fun other hother => (hstart other).2 ?_
    rw [writtenAs_iff.1 hother, ← writtenAs_iff.1 htext]
    exact hblock _ hline
  | trans _ _ ih ih' => exact ih' (ih hstart)

/-- **The import block is canonical**: it is an increasing list of lines without repetitions, one
for each thing that the file lists, and imports that say the same make the same text. -/
theorem render_imports (h : ∀ path ∈ file.imports, '\n' ∉ path.toList) :
    IsCanonicalBlock file (importBlock file.render) ∧
      ∀ imports, Restated (importBlock file.render) file.imports imports →
        { file with imports }.render = file.render := by
  have hcanonical : IsCanonicalBlock file (importBlock file.render) := by
    rw [importBlock_render h]
    constructor
    · rw [List.pairwise_map]
      refine (increasing_importTexts file).imp fun hless => ?_
      rw [bytesOf_cons, bytesOf_cons]
      exact List.append_left_lt (Ordered.bytesOf_lt_of_text_lt hless)
    · intro line
      rw [List.mem_map]
      simp only [mem_importTexts, eq_comm]
  refine ⟨hcanonical, fun imports hsame => render_congr (hsame.lists ?_ fun _ => Iff.rfl)⟩
  intro text hline
  obtain ⟨other, hother, htext⟩ := (hcanonical.lines _).1 hline
  rwa [String.toList_inj.1 (List.cons.inj htext).2]

end Block

/-- An import that has a name of its own. -/
def decimalImport : String := "decimal \"github.com/shopspring/decimal\""

/-- The order file is the same with one of its imports in quotes, the other one twice, and one that
its annotations bring along anyway. -/
theorem orderFile_imports :
    (∀ path ∈ orderFile.imports, '\n' ∉ path.toList) ∧
      IsCanonicalBlock orderFile (importBlock orderFile.render) ∧
      { orderFile with
        imports :=
          [ decimalImport, "entgo.io/ent/schema", inQuotes entsqlImport, decimalImport ]
        }.render = orderFile.render := by
  have hsingle : ∀ path ∈ orderFile.imports, '\n' ∉ path.toList := by decide
  obtain ⟨hcanonical, hsame⟩ := render_imports hsingle
  generalize hblock : importBlock orderFile.render = block at hcanonical hsame ⊢
  have hline : '\t' :: (inQuotes "entgo.io/ent/schema").toList ∈ block :=
    (hcanonical.lines _).2 ⟨_, .schema (by decide), rfl⟩
  have hquoted : Restated block [decimalImport, entsqlImport]
      [decimalImport, inQuotes entsqlImport] :=
    @Restated.quoted block [decimalImport] [] entsqlImport (by decide)
  have hrepeated : Restated block [decimalImport, inQuotes entsqlImport]
      [decimalImport, inQuotes entsqlImport, decimalImport] :=
    @Restated.repeated block [decimalImport, inQuotes entsqlImport] [] decimalImport (by decide)
  have hlisted : Restated block [decimalImport, inQuotes entsqlImport, decimalImport]
      ["entgo.io/ent/schema", decimalImport, inQuotes entsqlImport, decimalImport] :=
    @Restated.listed block [] _ _ _ (.quoted (by decide)) hline
  have hmoved : Restated block
      ["entgo.io/ent/schema", decimalImport, inQuotes entsqlImport, decimalImport]
      [decimalImport, "entgo.io/ent/schema", inQuotes entsqlImport, decimalImport] :=
    .permuted (.swap _ _ _)
  exact ⟨hsingle, hcanonical, hsame _ (hquoted.trans (hrepeated.trans (hlisted.trans hmoved)))⟩

end EntSchema.Schema
