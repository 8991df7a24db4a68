import ScenarioDesk.Proofs.Text.Lines

/-! One line of a text and what stands above and below it. Another line in its place leaves both as they
are, which is what every edit of a single line rests on. -/
namespace ScenarioDesk.Text

/-- Lines as they stand in a text in front of another one. -/
def above (lines : List Text) : Text := lines.flatMap fun line => line ++ [.char '\n']

/-- Lines as they stand in a text behind another one. -/
def below (lines : List Text) : Text := lines.flatMap fun line => .char '\n' :: line

theorem length_above (pieces : List Text) : (above pieces).length = endedLength pieces := by
  induction pieces with
  | nil => rfl
  | cons piece others ih =>
      rw [above, List.flatMap_cons, List.length_append, ← above, ih, List.length_append, endedLength]
      rfl

theorem count_above {pieces : List Text} (h : ∀ piece ∈ pieces, .char '\n' ∉ piece) :
    (above pieces).count (.char '\n') = pieces.length := by
  induction pieces with
  | nil => rfl
  | cons piece others ih =>
      obtain ⟨hPiece, hOthers⟩ := List.forall_mem_cons.mp h
      rw [above, List.flatMap_cons, List.count_append, List.count_append, ← above, ih hOthers,
        List.count_eq_zero.mpr hPiece]
      simp [Nat.add_comm]

theorem head_below (pieces : List Text) : below pieces = [] ∨ (below pieces).head? = some '\n' := by
  cases pieces with
  | nil => exact .inl rfl
  | cons piece others => exact .inr rfl

/-- A line in its text. -/
theorem unlines_append_cons (before : List Text) (line : Text) (after : List Text) :
    unlines (before ++ line :: after) = above before ++ line ++ below after := by
  induction before with
  | nil =>
      induction after generalizing line with
      | nil => simp [above, below]
      | cons next others ih =>
          have ih := ih next
          rw [List.nil_append] at ih ⊢
          rw [unlines_cons_cons, ih]
          simp [above, below]
  | cons piece others ih =>
      have hNe : ∃ next rest, others ++ line :: after = next :: rest :=
        List.exists_cons_of_ne_nil (by simp)
      obtain ⟨next, rest, hRest⟩ := hNe
      rw [List.cons_append, hRest, unlines_cons_cons, ← hRest, ih]
      simp [above]

/-- What is above a line ends where the line begins. -/
theorem lines_above_append {pieces : List Text} (h : ∀ piece ∈ pieces, .char '\n' ∉ piece)
    (text : Text) : lines (above pieces ++ text) = pieces ++ lines text := by
  induction pieces with
  | nil => rfl
  | cons piece others ih =>
      obtain ⟨hPiece, hOthers⟩ := List.forall_mem_cons.mp h
      rw [above, List.flatMap_cons, ← above, List.append_assoc, List.append_assoc,
        List.singleton_append, lines_append_newline, lines_of_newline_not_mem hPiece, ih hOthers]
      rfl

/-- How many lines a text has is known from its line feeds. -/
theorem lineCount_eq_iff (first second : Text) :
    lineCount first = lineCount second ↔ first.count (.char '\n') = second.count (.char '\n') := by
  rw [lineCount, lineCount, Nat.add_right_cancel_iff]

theorem lineCount_take_le (text : Text) (length : Nat) :
    lineCount (text.take length) ≤ lineCount text :=
  Nat.add_le_add_right ((List.take_sublist length text).count_le _) 1

section Replacing

variable {text : Text} {index : Nat}

theorem newline_not_mem_of_mem_take {piece : Text} (h : piece ∈ (lines text).take index) :
    .char '\n' ∉ piece :=
  newline_not_mem_of_mem_lines (List.mem_of_mem_take h)

/-- Another line in place of one of a text. -/
theorem unlines_set (h : index < (lines text).length) (full : Text) :
    unlines ((lines text).set index full) =
      above ((lines text).take index) ++ full ++ below ((lines text).drop (index + 1)) := by
  rw [List.set_eq_take_append_cons_drop, if_pos h, unlines_append_cons]

/-- The text is found around each of its lines. -/
theorem eq_above_append (h : index < (lines text).length) :
    text = above ((lines text).take index) ++ (lines text)[index] ++
      below ((lines text).drop (index + 1)) := by
  have hSet := unlines_set h (lines text)[index]
  rwa [List.set_getElem_self, unlines_lines] at hSet

/-- No line but the replaced one changes. -/
theorem lines_unlines_set {full : Text} (hFull : .char '\n' ∉ full) :
    lines (unlines ((lines text).set index full)) = (lines text).set index full := by
  apply lines_unlines
  · rw [ne_eq, List.set_eq_nil_iff]
    exact lines_ne_nil text
  · intro piece hPiece
    rcases List.mem_or_eq_of_mem_set hPiece with hMem | rfl
    · exact newline_not_mem_of_mem_lines hMem
    · exact hFull

end Replacing

end ScenarioDesk.Text
