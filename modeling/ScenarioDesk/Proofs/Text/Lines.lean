import ScenarioDesk.Proofs.Text.Trimming
import ScenarioDesk.Text.Newline

/-! Lines of texts that are put together, and what trimming does to lines. Trimming a text drops blank
lines at both ends; the lines that are left differ from what they were in outer blanks only. -/
namespace ScenarioDesk.Text

/-- The last line of the first text runs on into the first line of the second one. -/
theorem exists_lines_append (first second : Text) : ∃ init last head rest,
    lines first = init ++ [last] ∧ lines second = head :: rest ∧
      lines (first ++ second) = init ++ (last ++ head) :: rest := by
  induction first with
  | nil => exact ⟨[], [], _, _, rfl, rfl, rfl⟩
  | cons c text ih =>
      obtain ⟨init, last, head, rest, hFirst, hSecond, hBoth⟩ := ih
      by_cases hBreak : c = '\n'
      · subst hBreak
        exact ⟨[] :: init, last, head, rest, by simp [hFirst], hSecond, by simp [hBoth]⟩
      · have hLines : ∀ others, lines (c :: others) =
            (c :: (lines others).head (lines_ne_nil others)) :: (lines others).tail :=
          fun others => lines_cons hBreak others
        cases init with
        | nil => exact ⟨[], c :: last, head, rest, by simp [hLines, hFirst], hSecond,
            by simp [hLines, hBoth]⟩
        | cons line init => exact ⟨(c :: line) :: init, last, head, rest,
            by simp [hLines, hFirst], hSecond, by simp [hLines, hBoth]⟩

theorem lines_append_newline (first second : Text) :
    lines (first ++ .char '\n' :: second) = lines first ++ lines second := by
  obtain ⟨init, last, head, rest, hFirst, hSecond, hBoth⟩ :=
    exists_lines_append first (.char '\n' :: second)
  rw [lines_newline] at hSecond
  cases hSecond
  simp [hBoth, hFirst]

theorem lines_of_newline_not_mem {text : Text} (h : .char '\n' ∉ text) : lines text = [text] := by
  induction text with
  | nil => rfl
  | cons c rest ih =>
      obtain ⟨hHead, hRest⟩ := List.ne_and_not_mem_of_not_mem_cons h
      have hLines := ih hRest
      rw [lines] at hLines
      rw [lines_cons (Ne.symm hHead)]
      simp_all

/-- Lines that are joined are found again. -/
theorem lines_unlines {pieces : List Text} (hPieces : pieces ≠ [])
    (h : ∀ piece ∈ pieces, .char '\n' ∉ piece) : lines (unlines pieces) = pieces := by
  induction pieces with
  | nil => exact absurd rfl hPieces
  | cons piece others ih =>
      have hPiece := lines_of_newline_not_mem (h piece List.mem_cons_self)
      cases others with
      | nil => exact hPiece
      | cons next others =>
          rw [unlines_cons_cons, lines_append_newline, hPiece,
            ih (by simp) fun other hOther => h other (List.mem_cons_of_mem _ hOther)]
          rfl

/-- Joining puts nothing but line feeds between the lines. -/
theorem mem_unlines_iff {c : CodePoint} (hBreak : c ≠ '\n') {pieces : List Text} :
    c ∈ unlines pieces ↔ ∃ piece ∈ pieces, c ∈ piece := by
  induction pieces with
  | nil => simp
  | cons piece others ih =>
      cases others with
      | nil => simp
      | cons next others =>
          rw [unlines_cons_cons, List.mem_append, List.mem_cons, ih]
          simp [hBreak]

/-- A text without carriage returns has its line ends already. -/
theorem normalizeNewlines_eq_self {text : Text} (h : .char '\r' ∉ text) :
    normalizeNewlines text = text := by
  have hPaired : dropPairedReturns text = text := by
    induction text with
    | nil => rfl
    | cons c rest ih =>
        obtain ⟨hHead, hRest⟩ := List.ne_and_not_mem_of_not_mem_cons h
        rw [dropPairedReturns, ih hRest]
        rintro _ hChar
        exact absurd hChar.symm hHead
  rw [normalizeNewlines, hPaired]
  refine (List.map_congr_left fun c hMem => ?_).trans (List.map_id text)
  have hChar : c ≠ '\r' := ne_of_mem_of_not_mem hMem h
  rw [returnToNewline, if_neg hChar, id]

theorem isAllBlank_append (first second : Text) :
    isAllBlank (first ++ second) = (isAllBlank first && isAllBlank second) := List.all_append

theorem isAllBlank_unlines (pieces : List Text) :
    isAllBlank (unlines pieces) = pieces.all isAllBlank := by
  induction pieces with
  | nil => rfl
  | cons piece others ih =>
      cases others with
      | nil => simp
      | cons next others =>
          rw [unlines_cons_cons, isAllBlank_append, List.all_cons, ← ih]
          rfl

theorem isAllBlank_of_mem_lines {text line : Text} (h : isAllBlank text = true)
    (hLine : line ∈ lines text) : isAllBlank line = true := by
  rw [← unlines_lines text, isAllBlank_unlines] at h
  exact List.all_eq_true.mp h line hLine

theorem trim_append_left {blank : Text} (h : isAllBlank blank = true) (text : Text) :
    trim (blank ++ text) = trim text := by
  rw [trim, trim, trimStart, List.dropWhile_append_of_pos (List.all_eq_true.mp h), ← trimStart]

theorem trimEnd_append {blank : Text} (h : isAllBlank blank = true) (text : Text) :
    trimEnd (text ++ blank) = trimEnd text := by
  have hReverse : ∀ c ∈ blank.reverse, isBlank c = true := by
    simpa [isAllBlank] using h
  rw [trimEnd, trimEnd, List.reverse_append, List.dropWhile_append_of_pos hReverse]

theorem trim_append_right {blank : Text} (h : isAllBlank blank = true) (text : Text) :
    trim (text ++ blank) = trim text := by
  by_cases hText : isAllBlank text = true
  · rw [trim_append_left hText, trim_eq_nil_iff.mpr h, trim_eq_nil_iff.mpr hText]
  · have hRest : ¬ (text.dropWhile isBlank).isEmpty = true := by
      rw [List.isEmpty_iff]
      exact fun hEmpty => hText (trimStart_eq_nil_iff.mp hEmpty)
    rw [trim, trimStart, List.dropWhile_append, if_neg hRest, trimEnd_append h]
    rfl

theorem exists_trimStart_eq_append (text : Text) :
    ∃ back, isAllBlank back = true ∧ trimStart text = trim text ++ back := by
  refine ⟨((trimStart text).reverse.takeWhile isBlank).reverse, ?_, ?_⟩
  · rw [isAllBlank, List.all_reverse, List.all_takeWhile]
  · rw [trim, trimEnd, ← List.reverse_append, List.takeWhile_append_dropWhile, List.reverse_reverse]

/-- Trimming takes blanks away at both ends, and nothing else. -/
theorem exists_eq_append_trim (text : Text) : ∃ front back,
    isAllBlank front = true ∧ isAllBlank back = true ∧ text = front ++ trim text ++ back := by
  obtain ⟨back, hBack, hStart⟩ := exists_trimStart_eq_append text
  refine ⟨text.takeWhile isBlank, back, List.all_takeWhile, hBack, ?_⟩
  rw [List.append_assoc, ← hStart, trimStart, List.takeWhile_append_dropWhile]

theorem mem_of_mem_trim {c : CodePoint} {text : Text} (h : c ∈ trim text) : c ∈ text := by
  obtain ⟨front, back, _, _, hText⟩ := exists_eq_append_trim text
  rw [hText]
  exact List.mem_append_left _ (List.mem_append_right _ h)

@[simp] theorem trim_trim (text : Text) : trim (trim text) = trim text := by
  obtain ⟨front, back, hFront, hBack, hText⟩ := exists_eq_append_trim text
  have h := congrArg trim hText
  rw [trim_append_right hBack, trim_append_left hFront] at h
  exact h.symm

theorem trimStart_eq_self_iff {text : Text} :
    trimStart text = text ↔ ∀ c ∈ text.head?, isBlank c = false := by
  cases text with
  | nil => simp [trimStart]
  | cons c rest =>
      cases hBlank : isBlank c with
      | false => simp [trimStart, hBlank]
      | true =>
          have hShorter : (rest.dropWhile isBlank).length ≤ rest.length :=
            (List.dropWhile_suffix isBlank).length_le
          have hNe : rest.dropWhile isBlank ≠ c :: rest := by
            intro h
            rw [h, List.length_cons] at hShorter
            omega
          simp [trimStart, hBlank, hNe]

theorem trimEnd_eq_self_iff {text : Text} :
    trimEnd text = text ↔ ∀ c ∈ text.getLast?, isBlank c = false := by
  rw [trimEnd, List.reverse_eq_iff, ← trimStart, trimStart_eq_self_iff, List.head?_reverse]

/-- A text is trimmed if no blank stands at either end of it. -/
theorem trim_eq_self_iff {text : Text} : trim text = text ↔
    (∀ c ∈ text.head?, isBlank c = false) ∧ ∀ c ∈ text.getLast?, isBlank c = false := by
  rw [← trimStart_eq_self_iff, ← trimEnd_eq_self_iff, trim]
  constructor
  · intro h
    have hStart : (trimStart text).length ≤ text.length := (List.dropWhile_suffix isBlank).length_le
    have hEnd : (trimEnd (trimStart text)).length ≤ (trimStart text).length := by
      simpa [trimEnd] using
        (List.dropWhile_suffix (l := (trimStart text).reverse) isBlank).length_le
    rw [h] at hEnd
    have hSelf : trimStart text = text :=
      (List.dropWhile_suffix isBlank).eq_of_length (Nat.le_antisymm hStart hEnd)
    rw [hSelf] at h
    exact ⟨hSelf, h⟩
  · rintro ⟨hStart, hEnd⟩
    rw [hStart, hEnd]

/-- Trimmed texts stay trimmed when anything is put between them. -/
theorem trim_append_between {first second : Text} (hFirst : trim first = first)
    (hSecond : trim second = second) (hFront : first ≠ []) (hBack : second ≠ []) (between : Text) :
    trim (first ++ between ++ second) = first ++ between ++ second := by
  rw [trim_eq_self_iff] at hFirst hSecond ⊢
  rw [List.getLast?_append, Option.or_of_isSome (List.getLast?_isSome.mpr hBack)]
  refine ⟨?_, hSecond.2⟩
  obtain ⟨c, rest, rfl⟩ := List.exists_cons_of_ne_nil hFront
  exact hFirst.1

theorem map_trim_eq_replicate {blanks : List Text} (h : ∀ line ∈ blanks, isAllBlank line = true) :
    blanks.map trim = List.replicate blanks.length [] := by
  refine List.eq_replicate_of_mem ?_ |>.trans (by rw [List.length_map])
  intro line hLine
  obtain ⟨blank, hBlank, rfl⟩ := List.mem_map.mp hLine
  exact trim_eq_nil_iff.mpr (h blank hBlank)

/-- The lines of a text, up to their outer blanks, are those of the trimmed text between blank ones. -/
theorem exists_map_trim_lines_eq (text : Text) : ∃ above below,
    (lines text).map trim = List.replicate above [] ++ (lines (trim text)).map trim ++
      List.replicate below [] := by
  obtain ⟨front, back, hFront, hBack, hText⟩ := exists_eq_append_trim text
  obtain ⟨init, last, _, _, hInit, hHead, hLines⟩ := exists_lines_append front (trim text ++ back)
  obtain ⟨body, final, head, rest, hBody, hRest, hInner⟩ := exists_lines_append (trim text) back
  have hAbove : ∀ line ∈ init ++ [last], isAllBlank line = true := by
    rw [← hInit]
    exact fun line => isAllBlank_of_mem_lines hFront
  have hBelow : ∀ line ∈ head :: rest, isAllBlank line = true := by
    rw [← hRest]
    exact fun line => isAllBlank_of_mem_lines hBack
  have hLast := hAbove last (by simp)
  have hBelowFirst := hBelow head List.mem_cons_self
  refine ⟨init.length, rest.length, ?_⟩
  calc (lines text).map trim
      = (init ++ (last ++ _) :: _).map trim := by rw [hText, List.append_assoc, hLines]
    _ = init.map trim ++ (lines (trim text ++ back)).map trim := by
        rw [hHead, List.map_append, List.map_cons, List.map_cons, trim_append_left hLast]
    _ = init.map trim ++ ((lines (trim text)).map trim ++ rest.map trim) := by
        rw [hInner, hBody, List.map_append, List.map_cons, List.map_append, List.append_assoc,
          trim_append_right hBelowFirst]
        rfl
    _ = List.replicate init.length [] ++ (lines (trim text)).map trim ++
          List.replicate rest.length [] := by
        rw [map_trim_eq_replicate fun line hLine => hAbove line (List.mem_append_left _ hLine),
          map_trim_eq_replicate fun line hLine => hBelow line (List.mem_cons_of_mem _ hLine),
          List.append_assoc]

end ScenarioDesk.Text
