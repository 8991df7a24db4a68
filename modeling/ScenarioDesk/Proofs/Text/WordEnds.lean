import ScenarioDesk.Text.Case

/-! Lower case and the ends of words. The lower case of a text begins with that of its front, unless the cut
between them parts a word behind a capital sigma: at the end of the front that sigma is final, in the whole
text it is not. No other character looks at what stands behind it. -/
namespace ScenarioDesk.Text

section MeetsLetter

variable {front : Text}

/-- Marks that are passed over end no word and begin none. -/
theorem meetsLetter_append_of_passed (h : ∀ c ∈ front, isCaseIgnorable c = true) (rest : Text) :
    meetsLetter (front ++ rest) = meetsLetter rest := by
  simp [meetsLetter, List.dropWhile_append_of_pos h]

theorem meetsLetter_of_passed (h : ∀ c ∈ front, isCaseIgnorable c = true) :
    meetsLetter front = false := by
  simpa [meetsLetter] using meetsLetter_append_of_passed h []

/-- A character that is not passed over hides what stands behind it. -/
theorem meetsLetter_append_of_stops {c : CodePoint} (hMem : c ∈ front)
    (hStops : isCaseIgnorable c = false) (rest : Text) :
    meetsLetter (front ++ rest) = meetsLetter front := by
  induction front with
  | nil => cases hMem
  | cons d front ih =>
      cases hPassed : isCaseIgnorable d with
      | false => simp [meetsLetter, hPassed]
      | true =>
          have hOther : c ≠ d := by
            rintro rfl
            rw [hStops] at hPassed
            cases hPassed
          have hRest := ih ((List.mem_cons.mp hMem).resolve_left hOther)
          simpa [meetsLetter, hPassed] using hRest

end MeetsLetter

/-- The lower case of one character, given the text before it, nearest first, and whether a letter comes
next behind it. -/
def lowerBeside (before : Text) (letterNext : Bool) (c : CodePoint) : Text :=
  if c = '\u03A3' then [if meetsLetter before && !letterNext then '\u03C2' else '\u03C3'] else lowerChar c

theorem lowerAfter_cons (before : Text) (c : CodePoint) (rest : Text) :
    lowerAfter before (c :: rest) =
      lowerBeside before (meetsLetter rest) c ++ lowerAfter (c :: before) rest := rfl

/-- The front ends, marks aside, with a capital sigma behind another letter, and the rest begins, marks
aside, with a letter: the word is not over where the front ends. -/
def PartsWordAfter (before front rest : Text) : Prop :=
  ∃ above marks, front = above ++ .char '\u03A3' :: marks ∧ (∀ c ∈ marks, isCaseIgnorable c = true) ∧
    meetsLetter (above.reverse ++ before) = true ∧ meetsLetter rest = true

theorem PartsWordAfter.cons {before front rest : Text} {c : CodePoint}
    (h : PartsWordAfter (c :: before) front rest) : PartsWordAfter before (c :: front) rest := by
  obtain ⟨above, marks, rfl, hMarks, hBefore, hRest⟩ := h
  refine ⟨c :: above, marks, rfl, hMarks, ?_, hRest⟩
  rwa [List.reverse_cons, List.append_assoc]

/-- What stands behind the front makes no difference to the character in front of it. -/
theorem lowerBeside_append {before front rest : Text} {c : CodePoint}
    (h : ¬ PartsWordAfter before (c :: front) rest) :
    lowerBeside before (meetsLetter (front ++ rest)) c = lowerBeside before (meetsLetter front) c := by
  by_cases hStops : ∃ d ∈ front, isCaseIgnorable d = false
  · obtain ⟨d, hMem, hStop⟩ := hStops
    rw [meetsLetter_append_of_stops hMem hStop]
  · have hMarks : ∀ d ∈ front, isCaseIgnorable d = true := by simpa using hStops
    rw [meetsLetter_append_of_passed hMarks, meetsLetter_of_passed hMarks]
    unfold lowerBeside
    split
    · next hSigma =>
        subst hSigma
        cases hRest : meetsLetter rest with
        | false => rfl
        | true =>
            have hBefore : meetsLetter before = false := by
              rw [Bool.eq_false_iff]
              exact fun hLetter => h ⟨[], front, rfl, hMarks, hLetter, hRest⟩
            simp [hBefore]
    · rfl

/-- Where no word is parted, a text is put into lower case piece by piece. -/
theorem lowerAfter_append {before front rest : Text} (h : ¬ PartsWordAfter before front rest) :
    lowerAfter before (front ++ rest) =
      lowerAfter before front ++ lowerAfter (front.reverse ++ before) rest := by
  induction front generalizing before with
  | nil => rfl
  | cons c front ih =>
      have hRest := ih fun hParts => h hParts.cons
      rw [List.cons_append, lowerAfter_cons, lowerAfter_cons, lowerBeside_append h, hRest]
      simp

/-- The sigma at which a word is parted is final in front of the cut only. The induction is on the text
before the sigma, which hides what comes behind it from all that text. -/
theorem PartsWordAfter.not_prefix {before front rest : Text} (h : PartsWordAfter before front rest) :
    ¬ lowerAfter before front <+: lowerAfter before (front ++ rest) := by
  obtain ⟨above, marks, rfl, hMarks, hBefore, hRest⟩ := h
  induction above generalizing before with
  | nil =>
      have hFinal : meetsLetter marks = false := meetsLetter_of_passed hMarks
      have hInner : meetsLetter (marks ++ rest) = true := by
        rwa [meetsLetter_append_of_passed hMarks]
      have hLetter : meetsLetter before = true := hBefore
      simp [lowerAfter, hFinal, hInner, hLetter]
  | cons c above ih =>
      have hSigma : meetsLetter (above ++ .char '\u03A3' :: marks ++ rest) =
          meetsLetter (above ++ .char '\u03A3' :: marks) :=
        meetsLetter_append_of_stops (c := '\u03A3') (by simp) (by decide +kernel) rest
      rw [List.cons_append, List.cons_append, lowerAfter_cons, lowerAfter_cons, hSigma,
        List.prefix_append_right_inj]
      apply ih
      simpa using hBefore

/-- A word is parted behind a capital sigma, which is the last letter of the first text and not the first
letter of the word. -/
def PartsWord (front rest : Text) : Prop := PartsWordAfter [] front rest

/-- The lower case of a text begins with that of its front exactly if no word is parted there. -/
theorem lower_prefix_iff {front rest : Text} :
    lower front <+: lower (front ++ rest) ↔ ¬ PartsWord front rest := by
  constructor
  · exact fun hPrefix hParts => hParts.not_prefix hPrefix
  · intro hWhole
    rw [lower, lower, lowerAfter_append hWhole]
    exact List.prefix_append _ _

theorem occursIn_iff {needle text : Text} : occursIn needle text = true ↔ needle <:+: text := by
  induction text with
  | nil => simp [occursIn]
  | cons c rest ih => simp [occursIn, ih, List.infix_cons_iff]

/-- Where the lower case of a front is found in that of the whole text. -/
theorem occursIn_lower_iff {front rest : Text} :
    occursIn (lower front) (lower (front ++ rest)) = true ↔
      (PartsWord front rest → lower front <:+: (lower (front ++ rest)).tail) := by
  have hInfix : lower front <:+: lower (front ++ rest) ↔
      lower front <+: lower (front ++ rest) ∨ lower front <:+: (lower (front ++ rest)).tail := by
    cases lower (front ++ rest) with
    | nil => simp
    | cons c others => exact List.infix_cons_iff
  rw [occursIn_iff, hInfix, lower_prefix_iff]
  constructor
  · rintro (hWhole | hLater) hParts
    · exact absurd hParts hWhole
    · exact hLater
  · intro hLater
    by_cases hParts : PartsWord front rest
    · exact .inr (hLater hParts)
    · exact .inl hParts

end ScenarioDesk.Text
