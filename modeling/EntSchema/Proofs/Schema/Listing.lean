import EntSchema.Proofs.Text.Lines
import EntSchema.Schema.Source
import Mathlib.Data.List.SplitBy

/-!
# The layout of declarations

The source text of a schema file is all that is left of its declarations, and only the layout says
where one of them ends: a declaration may have further lines, with tabs and braces of their own. The
layout says enough. A line with exactly two tabs starts a declaration, because the further lines get
three (`exists_laidOut`). So a list falls apart into the lines of each declaration
(`splitItems_laidOut`), and these give the declaration back (`itemOfLines_laidOut`).

What has to be assumed of a declaration is what the layout cannot keep: line ends with carriage
returns, a line feed behind the last line, and a tab in front of the first.
-/

namespace EntSchema.Schema

open Text (linePieces)

/-! ## Reading a listing -/

/-- The line that opens the list of the declarations of a type. -/
def openingLine (itemType : String) : List Char :=
  ("\treturn []" ++ itemType ++ "\x7b").toList

/-- The line that closes a list. -/
def closingLine : List Char := "\t\x7d".toList

/-- The lines behind an opening line, up to the next closing line. -/
def between (opening closing : List Char) (lines : List (List Char)) : List (List Char) :=
  ((lines.dropWhile (· != opening)).drop 1).takeWhile (· != closing)

/-- The lines of a source text that list the declarations of a type. -/
def listing (itemType text : String) : List (List Char) :=
  between (openingLine itemType) closingLine (linePieces text.toList)

/-- Whether a line starts a declaration: it has two tabs in front and no third one. -/
def startsItem (line : List Char) : Bool :=
  (line.takeWhile (· == '\t')).length == 2

/-- The lines of a listing, declaration by declaration. -/
def splitItems (lines : List (List Char)) : List (List (List Char)) :=
  lines.splitBy fun _ next => !startsItem next

/-- The lines of a declaration without their indentation. -/
def unindentLines : List (List Char) → List (List Char)
  | [] => []
  | first :: rest => first.drop 2 :: rest.map (·.drop 3)

/-- A line without the comma behind it. -/
def withoutComma (line : List Char) : List Char :=
  if line.getLast? = some ',' then line.dropLast else line

/-- Lines without the comma behind the last one. -/
def uncloseLines : List (List Char) → List (List Char)
  | [] => []
  | [last] => [withoutComma last]
  | line :: rest => line :: uncloseLines rest

/-- The declaration that some lines of a listing show. -/
def itemOfLines (lines : List (List Char)) : String :=
  String.ofList (['\n'].intercalate (unindentLines (uncloseLines lines)))

/-- The declarations of a type that a source text lists. -/
def declarations (itemType text : String) : List String :=
  (splitItems (listing itemType text)).map itemOfLines

/-! ## What is listed -/

/-- A declaration that the layout can keep apart from itself. -/
structure IsPlainItem (item : String) : Prop where
  noReturn : '\r' ∉ item.toList
  noFeedBehind : item.toList.getLast? ≠ some '\n'
  noTabInFront : item.toList.head? ≠ some '\t'

instance (item : String) : Decidable (IsPlainItem item) :=
  decidable_of_iff ('\r' ∉ item.toList ∧ item.toList.getLast? ≠ some '\n' ∧
      item.toList.head? ≠ some '\t')
    ⟨fun ⟨h, h', h''⟩ => ⟨h, h', h''⟩, fun ⟨h, h', h''⟩ => ⟨h, h', h''⟩⟩

/-- The declarations that are listed: those that say something. -/
def listed (items : List String) : List String :=
  items.filter (· ≠ "")

/-- The lines of a declaration in a listing. The first one is indented by two tabs and the others by
three, and the last one alone has a comma behind it. -/
def laidOut (item : String) : List (List Char) :=
  let lines := linePieces item.toList
  lines.mapIdx fun i line =>
    List.replicate (if i = 0 then 2 else 3) '\t' ++ line ++
      if i + 1 = lines.length then [','] else []

/-- A source text lists some declarations: they are read back from it, and the lines that list them
are theirs and no others. -/
structure ReadsBack (itemType : String) (items : List String) (text : String) : Prop where
  declarations : declarations itemType text = listed items
  lines : listing itemType text = (listed items).flatMap laidOut

/-! ## The lines of a declaration -/

section Item

variable {item : String} {line : List Char} {lines : List (List Char)}

theorem closeLines_eq_mapIdx (lines : List (List Char)) :
    closeLines lines =
      lines.mapIdx fun i line => line ++ if i + 1 = lines.length then [','] else [] := by
  fun_induction closeLines lines with
  | case1 => rfl
  | case2 last => rfl
  | case3 line rest hrest ih =>
    have hlength : rest.length ≠ 0 := by
      intro h
      exact hrest (List.length_eq_zero_iff.1 h)
    rw [List.mapIdx_cons, ih, List.length_cons, if_neg (by omega), List.append_nil]
    simp only [Nat.add_right_cancel_iff]

theorem indentLines_eq_mapIdx (lines : List (List Char)) :
    indentLines lines =
      lines.mapIdx fun i line => List.replicate (if i = 0 then 2 else 3) '\t' ++ line := by
  cases lines with
  | nil => rfl
  | cons first rest =>
    rw [indentLines, List.mapIdx_cons]
    refine congrArg ((['\t', '\t'] ++ first) :: ·) (List.ext_getElem ?_ ?_)
    · rw [List.length_map, List.length_mapIdx]
    · intro i hi hi'
      rw [List.getElem_map, List.getElem_mapIdx, if_neg (Nat.succ_ne_zero i)]
      rfl

theorem closeLines_indentLines (item : String) :
    closeLines (indentLines (linePieces item.toList)) = laidOut item := by
  rw [closeLines_eq_mapIdx, indentLines_eq_mapIdx, List.mapIdx_mapIdx, List.length_mapIdx]
  rfl

theorem uncloseLines_closeLines (lines : List (List Char)) :
    uncloseLines (closeLines lines) = lines := by
  fun_induction closeLines lines with
  | case1 => rfl
  | case2 last =>
    rw [uncloseLines, withoutComma, List.getLast?_concat, if_pos rfl, List.dropLast_concat]
  | case3 line rest hrest ih =>
    rw [uncloseLines, ih]
    intro hclosed
    rw [hclosed] at ih
    exact hrest ih.symm

theorem unindentLines_indentLines (lines : List (List Char)) :
    unindentLines (indentLines lines) = lines := by
  cases lines with
  | nil => rfl
  | cons first rest =>
    show first :: (rest.map _).map _ = first :: rest
    rw [List.map_map]
    exact congrArg (first :: ·) (List.map_id rest)

/-- **A declaration is read back from its lines.** -/
theorem itemOfLines_laidOut (item : String) : itemOfLines (laidOut item) = item := by
  rw [← closeLines_indentLines, itemOfLines, uncloseLines_closeLines, unindentLines_indentLines,
    Text.intercalate_linePieces, String.ofList_toList]

/-- The lines that are written for a declaration are those of its layout. -/
theorem itemLines_eq_laidOut (hne : item ≠ "") (h : IsPlainItem item) :
    (itemLines item).map String.toList = laidOut item := by
  have hchars : item.toList ≠ [] := by
    intro hnil
    exact hne (String.toList_inj.1 hnil)
  have hread : String.toList ∘ String.ofList = id := funext fun _ => String.toList_ofList
  rw [itemLines, List.map_map, hread, List.map_id,
    Text.lines_eq_linePieces hchars h.noReturn h.noFeedBehind, closeLines_indentLines]

/-- A line of a layout, with what stands in front of it and behind it. -/
theorem exists_of_mem_laidOut (h : line ∈ laidOut item) :
    ∃ piece ∈ linePieces item.toList, ∃ tabs comma,
      (tabs = ['\t', '\t'] ∨ tabs = ['\t', '\t', '\t']) ∧ (comma = [','] ∨ comma = []) ∧
        line = tabs ++ piece ++ comma := by
  obtain ⟨i, hi, rfl⟩ := List.mem_mapIdx.1 h
  refine ⟨_, List.getElem_mem hi, _, _, ?_, ?_, rfl⟩
  · split
    · exact .inl rfl
    · exact .inr rfl
  · split
    · exact .inl rfl
    · exact .inr rfl

theorem take_of_mem_laidOut (h : line ∈ laidOut item) : line.take 2 = ['\t', '\t'] := by
  obtain ⟨piece, -, tabs, comma, htabs, -, rfl⟩ := exists_of_mem_laidOut h
  rcases htabs with rfl | rfl
  · rfl
  · rfl

theorem lineFeed_not_mem_of_mem_laidOut (h : line ∈ laidOut item) : '\n' ∉ line := by
  obtain ⟨piece, hpiece, tabs, comma, htabs, hcomma, rfl⟩ := exists_of_mem_laidOut h
  have hpiece' := Text.lineFeed_not_mem_of_mem_linePieces hpiece
  rcases htabs with rfl | rfl <;> rcases hcomma with rfl | rfl <;> simp [hpiece']

/-! ## Where declarations start -/

/-- A piece of a text starts as the text does, or is empty. -/
theorem head?_linePieces {s first : List Char} {rest : List (List Char)}
    (hpieces : linePieces s = first :: rest) (h : s.head? ≠ some '\t') :
    first.head? ≠ some '\t' := by
  cases s with
  | nil =>
    cases hpieces
    exact h
  | cons c s =>
    rw [Text.linePieces_cons] at hpieces
    split at hpieces
    · cases hpieces
      simp
    · obtain ⟨piece, more, hmore⟩ := Text.exists_linePieces s
      rw [hmore, List.modifyHead_cons] at hpieces
      cases hpieces
      exact h

theorem startsItem_of_head? (h : line.head? ≠ some '\t') :
    startsItem (['\t', '\t'] ++ line) = true := by
  have hnone : line.takeWhile (· == '\t') = [] := by
    cases line with
    | nil => rfl
    | cons c rest =>
      have hc : ¬(c == '\t') = true := fun heq => h (congrArg some (eq_of_beq heq))
      rw [List.takeWhile_cons, if_neg hc]
  have htwo : (['\t', '\t'] ++ line).takeWhile (· == '\t') =
      '\t' :: '\t' :: line.takeWhile (· == '\t') := rfl
  rw [startsItem, htwo, hnone]
  rfl

theorem startsItem_of_three_tabs (line : List Char) :
    startsItem (['\t', '\t', '\t'] ++ line) = false := by
  have hthree : (['\t', '\t', '\t'] ++ line).takeWhile (· == '\t') =
      '\t' :: '\t' :: '\t' :: line.takeWhile (· == '\t') := rfl
  rw [startsItem, hthree, beq_eq_false_iff_ne, List.length_cons, List.length_cons,
    List.length_cons]
  omega

/-- **The first line of a declaration starts it, and no other line does.** -/
theorem exists_laidOut (h : IsPlainItem item) :
    ∃ first rest, laidOut item = first :: rest ∧ startsItem first = true ∧
      ∀ line ∈ rest, startsItem line = false := by
  obtain ⟨first, rest, hpieces⟩ := Text.exists_linePieces item.toList
  have hfirst := head?_linePieces hpieces h.noTabInFront
  rw [laidOut, hpieces, List.mapIdx_cons]
  refine ⟨_, _, rfl, ?_, ?_⟩
  · rw [if_pos rfl, List.append_assoc]
    apply startsItem_of_head?
    cases first with
    | nil => split <;> simp
    | cons c more => exact hfirst
  · intro line hline
    obtain ⟨i, hi, rfl⟩ := List.mem_mapIdx.1 hline
    rw [if_neg (Nat.succ_ne_zero i), List.append_assoc]
    exact startsItem_of_three_tabs _

theorem splitItems_cons (h : IsPlainItem item) {items : List String}
    (hitems : ∀ item ∈ items, IsPlainItem item) :
    splitItems (laidOut item ++ items.flatMap laidOut) =
      laidOut item :: splitItems (items.flatMap laidOut) := by
  obtain ⟨first, rest, hlines, -, hrest⟩ := exists_laidOut h
  have hchain : (laidOut item).IsChain fun _ next => (!startsItem next) = true := by
    rw [hlines]
    refine (List.pairwise_cons.2 ⟨?_, List.pairwise_of_forall_mem_list ?_⟩).isChain
    · intro next hnext
      rw [hrest next hnext]
      rfl
    · intro _ _ next hnext
      rw [hrest next hnext]
      rfl
  have hne : laidOut item ≠ [] := by
    rw [hlines]
    exact List.cons_ne_nil _ _
  have halone : splitItems (laidOut item) = [laidOut item] :=
    List.splitBy_of_isChain hne hchain
  -- A list is cut in front of a line, so the last declaration, with none behind it, stands apart.
  cases items with
  | nil =>
    rw [List.flatMap_nil, List.append_nil, halone]
    rfl
  | cons other items =>
    obtain ⟨start, more, hother, hstart, -⟩ :=
      exists_laidOut (hitems other List.mem_cons_self)
    rw [List.flatMap_cons, hother, List.cons_append]
    have hcut : splitItems (laidOut item ++ start :: (more ++ items.flatMap laidOut)) =
        splitItems (laidOut item) ++ splitItems (start :: (more ++ items.flatMap laidOut)) := by
      apply List.splitBy_append_cons
      intro _ _
      rw [hstart]
      rfl
    rw [hcut, halone]
    rfl

/-- **The lines of some declarations fall apart into those of each.** -/
theorem splitItems_laidOut {items : List String} (h : ∀ item ∈ items, IsPlainItem item) :
    splitItems (items.flatMap laidOut) = items.map laidOut := by
  induction items with
  | nil => rfl
  | cons item items ih =>
    obtain ⟨hitem, hitems⟩ := List.forall_mem_cons.1 h
    rw [List.flatMap_cons, splitItems_cons hitem hitems, ih hitems, List.map_cons]

end Item

/-! ## Where a list opens and closes -/

section Between

variable {mark opening closing : List Char} {before body after lines : List (List Char)}

theorem forall_bne_of_not_mem (h : mark ∉ lines) : ∀ line ∈ lines, (line != mark) = true := by
  intro line hline
  rw [bne_iff_ne]
  rintro rfl
  exact h hline

theorem between_append (h : opening ∉ before) (lines : List (List Char)) :
    between opening closing (before ++ lines) = between opening closing lines := by
  rw [between, List.dropWhile_append_of_pos (forall_bne_of_not_mem h), between]

theorem between_of_not_mem (h : opening ∉ lines) : between opening closing lines = [] := by
  rw [← List.append_nil lines, between_append h]
  rfl

theorem between_opening (h : closing ∉ body) :
    between opening closing (opening :: (body ++ closing :: after)) = body := by
  rw [between, List.dropWhile_cons, if_neg (by simp), List.drop_one, List.tail_cons,
    List.takeWhile_append_of_pos (forall_bne_of_not_mem h), List.takeWhile_cons,
    if_neg (by simp), List.append_nil]

end Between

end EntSchema.Schema
