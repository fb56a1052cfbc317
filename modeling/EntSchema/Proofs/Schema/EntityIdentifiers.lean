import EntSchema.Output
import EntSchema.Proofs.Naming.Identifiers
import EntSchema.Proofs.Schema.EntityNames

/-!
# Entities that are identifiers

A schema file declares a type with the name of its entity. Of a name in quotes the stem keeps every
character, and the check of stems refuses only what is no name of a file; the entity loses the
separators of the stem and nothing else. So a stem can be the name of a file while its entity is the
name of no type, as for `Order Item.v2`.

`entity_isIdentifier_iff` says of every file whether its type has a name that is an identifier, from
the stem alone.
-/

namespace EntSchema.Schema

open Relational Config Naming

/-- The line of a file that declares the type of its entity. -/
def declarationLine (entity : String) : String :=
  "type " ++ entity ++ " struct \x7b"

theorem declarationLine_mem_fileLines (file : SchemaFile) :
    declarationLine file.entity ∈ fileLines file := by
  have htype : declarationLine file.entity ∈ typeLines file.entity :=
    List.mem_cons_of_mem _ (List.mem_cons_of_mem _ List.mem_cons_self)
  simp only [fileLines, List.mem_append]
  exact .inl (.inl (.inl (.inr htype)))

/-- **A file declares its entity, which is an identifier as the words of its stem allow.** There has
to be a word. Acronyms are welcome in every place; any other word, with its first character as a
capital, has to be an identifier in the first place, and behind that to consist of what an identifier
goes on with. For a stem in ASCII this is to say that it is an identifier without its separators. -/
theorem entity_isIdentifier_iff {config : Config} {table : Table} {file : SchemaFile}
    (hfile : fileOf config table = .ok file) (classes : CharacterClasses) :
    declarationLine file.entity ∈ fileLines file ∧
      (IsIdentifier classes file.entity.toList ↔
        ∃ first rest, words file.stem.toList = first :: rest ∧ CanLead classes first ∧
          ∀ word ∈ rest, CanFollow classes word) ∧
      ((∀ c ∈ file.stem.toList, Unicode.isAscii c = true) →
        (IsIdentifier classes file.entity.toList ↔
          IsIdentifier asciiClasses (letters file.stem.toList))) := by
  have hentity : file.entity.toList = upperCamelChars file.stem.toList := by
    rw [(names_of_fileOf hfile).2, upperCamel, String.toList_ofList]
  rw [hentity]
  exact ⟨declarationLine_mem_fileLines file, isIdentifier_upperCamelChars,
    isIdentifier_upperCamelChars_of_ascii⟩

/-- A name in quotes with a blank, and one that starts with a digit. -/
theorem orderItems_isIdentifier :
    fileOf {} (keyTable "Order Items") = .ok (bareFile "Order Item") ∧
      fileOf {} (keyTable "2024 orders") = .ok (bareFile "2024 order") ∧
      ∀ classes, IsIdentifier classes (bareFile "Order Item").entity.toList ∧
        ¬IsIdentifier classes (bareFile "2024 order").entity.toList := by
  have hitems : singularize "Order Items" = "Order Item" := by decide +kernel
  have horders : singularize "2024 orders" = "2024 order" := by decide +kernel
  have hfile := fileOf_keyTable "Order Items"
  have hotherFile := fileOf_keyTable "2024 orders"
  rw [hitems] at hfile
  rw [horders] at hotherFile
  refine ⟨hfile, hotherFile, fun classes => ⟨?_, ?_⟩⟩
  · obtain ⟨-, -, hascii⟩ := entity_isIdentifier_iff hfile classes
    exact (hascii (List.all_eq_true.1 (by decide))).2 (by decide)
  · obtain ⟨-, -, hascii⟩ := entity_isIdentifier_iff hotherFile classes
    rw [hascii (List.all_eq_true.1 (by decide))]
    decide

/-- A name of a file, whose entity is no identifier. -/
theorem versionedItem_noIdentifier :
    fileOf {} (keyTable "Order Item.v2") = .ok (bareFile "Order Item.v2") ∧
      Output.stemDefect? (bareFile "Order Item.v2").stem = none ∧
      (bareFile "Order Item.v2").entity = "OrderItem.v2" ∧
      ∀ classes, ¬IsIdentifier classes (bareFile "Order Item.v2").entity.toList := by
  have hsingular : singularize "Order Item.v2" = "Order Item.v2" := by decide +kernel
  have hfile := fileOf_keyTable "Order Item.v2"
  rw [hsingular] at hfile
  have hentity : (bareFile "Order Item.v2").entity = "OrderItem.v2" := by decide +kernel
  refine ⟨hfile, by decide, hentity, fun classes => ?_⟩
  rw [hentity, isIdentifier_of_ascii (List.all_eq_true.1 (by decide))]
  decide

end EntSchema.Schema
