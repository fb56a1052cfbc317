import EntSchema.Proofs.Text.Pieces
import EntSchema.Text.Lines

/-!
# Lines as pieces

The lines of a text take line ends off, carriage returns included, so in general they do not give
the text back. Its pieces between line feeds do (`intercalate_linePieces`), and they are the lines
of a text without carriage returns that does not end in a line feed (`lines_eq_linePieces`). Lines
that are written one after another, each with a line feed behind it, are the pieces of what is
written (`linePieces_flatMap`). Every line feed divides the lines, those of the text before it from
those of the text behind it (`lines_append`).
-/

namespace EntSchema.Text

/-- The pieces of a text between line feeds. -/
def linePieces (s : List Char) : List (List Char) :=
  pieces (· == '\n') s

variable {s seen : List Char}

theorem linePieces_cons (c : Char) (s : List Char) :
    linePieces (c :: s) =
      if c = '\n' then [] :: linePieces s else (linePieces s).modifyHead (c :: ·) := by
  simp only [linePieces, pieces, beq_iff_eq]

theorem exists_linePieces (s : List Char) : ∃ first rest, linePieces s = first :: rest :=
  List.exists_cons_of_ne_nil (pieces_ne_nil _ s)

theorem lineFeed_not_mem_of_mem_linePieces {piece : List Char} (h : piece ∈ linePieces s) :
    '\n' ∉ piece :=
  not_mem_of_mem_pieces h

theorem intercalate_linePieces (s : List Char) : ['\n'].intercalate (linePieces s) = s :=
  intercalate_pieces '\n' s

theorem closeLine_of_not_mem (h : '\r' ∉ seen) : closeLine seen = seen.reverse := by
  unfold closeLine
  split
  · exact absurd List.mem_cons_self h
  · rfl

/-- The pieces of a text, where the first one has begun before it. -/
theorem linesAfter_eq_modifyHead (hseen : '\r' ∉ seen) (hreturn : '\r' ∉ s)
    (hend : s.getLast? ≠ some '\n') (hne : seen ≠ [] ∨ s ≠ []) :
    linesAfter seen s = (linePieces s).modifyHead (seen.reverse ++ ·) := by
  induction s generalizing seen with
  | nil =>
    have hsome : seen.isEmpty = false := List.isEmpty_eq_false_iff.2 (hne.resolve_right (· rfl))
    have hpieces : linePieces [] = [[]] := rfl
    rw [linesAfter, hsome, hpieces, List.modifyHead_cons, List.append_nil]
    rfl
  | cons c rest ih =>
    have hc : '\r' ≠ c := List.ne_of_not_mem_cons hreturn
    have hrest : '\r' ∉ rest := List.not_mem_of_not_mem_cons hreturn
    rw [linesAfter, linePieces_cons]
    split
    · rename_i hfeed
      -- A line feed at the very end would leave an empty piece, which is not a line.
      have hmore : rest ≠ [] := by
        rintro rfl
        exact hend (congrArg some hfeed)
      obtain ⟨d, more, rfl⟩ := List.exists_cons_of_ne_nil hmore
      rw [List.getLast?_cons_cons] at hend
      rw [closeLine_of_not_mem hseen, ih List.not_mem_nil hrest hend (.inr hmore),
        List.modifyHead_cons, List.append_nil]
      obtain ⟨first, others, hpieces⟩ := exists_linePieces (d :: more)
      rw [hpieces]
      rfl
    · have hlater : rest.getLast? ≠ some '\n' := by
        cases rest with
        | nil => simp
        | cons d more => rwa [List.getLast?_cons_cons] at hend
      have hbegun : '\r' ∉ c :: seen := List.not_mem_cons_of_ne_of_not_mem hc hseen
      rw [ih hbegun hrest hlater (.inl (List.cons_ne_nil _ _))]
      obtain ⟨first, others, hpieces⟩ := exists_linePieces rest
      rw [hpieces, List.modifyHead_cons, List.modifyHead_cons, List.modifyHead_cons,
        List.reverse_cons, List.append_assoc]
      rfl

/-- **The lines of a text are its pieces**, when no line end of it has a carriage return and no
line feed is its last character. -/
theorem lines_eq_linePieces (hne : s ≠ []) (hreturn : '\r' ∉ s) (hend : s.getLast? ≠ some '\n') :
    lines s = linePieces s := by
  rw [lines, linesAfter_eq_modifyHead List.not_mem_nil hreturn hend (.inr hne)]
  obtain ⟨first, rest, hpieces⟩ := exists_linePieces s
  rw [hpieces]
  rfl

/-! ## Texts of several lines -/

theorem linesAfter_append (seen s t : List Char) :
    linesAfter seen (s ++ '\n' :: t) = linesAfter seen (s ++ ['\n']) ++ lines t := by
  induction s generalizing seen with
  | nil => rfl
  | cons c rest ih =>
    rw [List.cons_append, List.cons_append, linesAfter, linesAfter]
    split
    · rw [ih, List.cons_append]
    · exact ih _

/-- The lines of a text are those up to some line feed and those behind it. -/
theorem lines_append (s t : List Char) : lines (s ++ '\n' :: t) = lines (s ++ ['\n']) ++ lines t :=
  linesAfter_append [] s t

theorem linesAfter_single {line : List Char} (hfeed : '\n' ∉ line) :
    linesAfter seen (line ++ ['\n']) = [closeLine (line.reverse ++ seen)] := by
  induction line generalizing seen with
  | nil => rfl
  | cons c rest ih =>
    rw [List.cons_append, linesAfter, if_neg (List.ne_of_not_mem_cons hfeed).symm,
      ih (List.not_mem_of_not_mem_cons hfeed), List.reverse_cons, List.append_assoc]
    rfl

theorem lines_single {line : List Char} (hfeed : '\n' ∉ line) (hreturn : '\r' ∉ line) :
    lines (line ++ ['\n']) = [line] := by
  rw [lines, linesAfter_single hfeed, List.append_nil,
    closeLine_of_not_mem (mt List.mem_reverse.1 hreturn), List.reverse_reverse]

/-- **A line between two line feeds is a line of the text.** -/
theorem lines_between {line : List Char} (hfeed : '\n' ∉ line) (hreturn : '\r' ∉ line)
    (s t : List Char) :
    lines (s ++ '\n' :: (line ++ '\n' :: t)) = lines (s ++ ['\n']) ++ line :: lines t := by
  rw [lines_append, lines_append line, lines_single hfeed hreturn]
  rfl

theorem linesAfter_ne_nil (h : seen ≠ [] ∨ s ≠ []) : linesAfter seen s ≠ [] := by
  induction s generalizing seen with
  | nil =>
    rw [linesAfter, List.isEmpty_eq_false_iff.2 (h.resolve_right (· rfl))]
    exact List.cons_ne_nil _ _
  | cons c rest ih =>
    rw [linesAfter]
    split
    · exact List.cons_ne_nil _ _
    · exact ih (.inl (List.cons_ne_nil _ _))

theorem lines_ne_nil (h : s ≠ []) : lines s ≠ [] :=
  linesAfter_ne_nil (.inr h)

/-- **Lines that are written with their line ends are read back**, in front of whatever follows. -/
theorem linePieces_flatMap_append {written : List (List Char)} (h : ∀ line ∈ written, '\n' ∉ line)
    (rest : List Char) :
    linePieces (written.flatMap (· ++ ['\n']) ++ rest) = written ++ linePieces rest := by
  induction written with
  | nil => rfl
  | cons line more ih =>
    obtain ⟨hline, hmore⟩ := List.forall_mem_cons.1 h
    have hsingle : pieces (· == '\n') line = [line] := by
      apply pieces_eq_singleton
      intro c hc
      rw [beq_eq_false_iff_ne]
      exact fun heq => hline (heq ▸ hc)
    have htext : (line :: more).flatMap (· ++ ['\n']) ++ rest =
        line ++ '\n' :: (more.flatMap (· ++ ['\n']) ++ rest) := by
      rw [List.flatMap_cons, List.append_assoc, List.append_assoc]
      rfl
    rw [htext, linePieces, pieces_append_cons rfl, hsingle]
    exact congrArg (line :: ·) (ih hmore)

/-- With nothing behind them there is an empty piece. -/
theorem linePieces_flatMap {written : List (List Char)} (h : ∀ line ∈ written, '\n' ∉ line) :
    linePieces (written.flatMap (· ++ ['\n'])) = written ++ [[]] := by
  have hread := linePieces_flatMap_append h []
  rwa [List.append_nil] at hread

end EntSchema.Text
